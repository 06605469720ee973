import ShellGateway.Text.Digit

/-!
# Network addresses

Internet addresses of both families, their written forms, and socket
addresses.

An IPv4 address is four decimal bytes without leading zeros. An IPv6 address is
eight groups of at most four hexadecimal digits; one run of zero groups may be
written `::`, and the last two groups may be written as an IPv4 address. The
printer is canonical: lower case, the longest run of at least two zero groups
compressed (the first of several), and only IPv4-mapped addresses in the mixed
form.

Readers take characters from the front and return the rest, so that larger
forms are put together from smaller ones; `IpAddress.parse?` and
`SocketAddress.parse?` accept a text only when nothing is left over.
-/

namespace ShellGateway.Net

/-- An IPv4 address: four bytes, most significant first. -/
structure IPv4 where
  a : UInt8
  b : UInt8
  c : UInt8
  d : UInt8
  deriving DecidableEq, Repr

/-- An IPv6 address: eight groups of sixteen bits. -/
structure IPv6 where
  groups : Vector UInt16 8
  deriving DecidableEq, Repr

/-- An internet address of either family. -/
inductive IpAddress where
  | v4 (address : IPv4)
  | v6 (address : IPv6)
  deriving DecidableEq, Repr

/-- An address and a port. An IPv6 address may name the link it belongs to by a
scope number, zero when it does not matter. -/
inductive SocketAddress where
  | v4 (address : IPv4) (port : UInt16)
  | v6 (address : IPv6) (scope : UInt32) (port : UInt16)
  deriving DecidableEq, Repr

/-! ## Readers -/

/-- Takes one given character. -/
def takeChar (c : Char) : List Char → Option (List Char)
  | x :: rest => if x = c then some rest else none
  | [] => none

/-- Takes a number of one to `most` digits. With `bare`, a number of several
digits must not begin with zero. -/
def takeGroup (base most : Nat) (bare : Bool) (s : List Char) : Option (Nat × List Char) :=
  let (digits, rest) := Digit.span base s
  if digits.length > most then none
  else if bare && digits.length > 1 && digits.head? == some '0' then none
  else (Digit.read? base digits).map (·, rest)

/-- Takes a decimal number below `limit`, of any number of digits. -/
def takeNumber (limit : Nat) (s : List Char) : Option (Nat × List Char) :=
  let (digits, rest) := Digit.span 10 s
  ((Digit.read? 10 digits).filter (· < limit)).map (·, rest)

/-- Takes one byte of an IPv4 address. -/
def takeOctet (s : List Char) : Option (UInt8 × List Char) := do
  let (n, rest) ← takeGroup 10 3 true s
  if n < 256 then some (UInt8.ofNat n, rest) else none

/-- Takes an IPv4 address. -/
def IPv4.take (s : List Char) : Option (IPv4 × List Char) := do
  let (a, s) ← takeOctet s
  let (b, s) ← takeOctet (← takeChar '.' s)
  let (c, s) ← takeOctet (← takeChar '.' s)
  let (d, s) ← takeOctet (← takeChar '.' s)
  return (⟨a, b, c, d⟩, s)

/-- The two groups that an IPv4 address fills. -/
def IPv4.groups (ip : IPv4) : List UInt16 :=
  [UInt16.ofNat (ip.a.toNat * 256 + ip.b.toNat), UInt16.ofNat (ip.c.toNat * 256 + ip.d.toNat)]

/-- Takes at most `room` groups, the colon between groups included; `first` says
that no group has been taken yet, so that no colon is due. The answer also says
whether the groups ended in an IPv4 address. -/
def takeGroups : (room : Nat) → (first : Bool) → List Char → List UInt16 × Bool × List Char
  | 0, _, s => ([], false, s)
  | room + 1, first, s =>
    let item? := if first then some s else takeChar ':' s
    match item? with
    | none => ([], false, s)
    | some item =>
      match (if room = 0 then none else IPv4.take item) with
      | some (ip, rest) => (ip.groups, true, rest)
      | none =>
        match takeGroup 16 4 false item with
        | none => ([], false, s)
        | some (n, rest) =>
          let (more, mixed, rest) := takeGroups room false rest
          (UInt16.ofNat n :: more, mixed, rest)

/-- Eight groups given as a list, missing ones zero. -/
def IPv6.ofList (groups : List UInt16) : IPv6 :=
  ⟨Vector.ofFn fun i => groups.getD i.val 0⟩

/-- Takes an IPv6 address. -/
def IPv6.take (s : List Char) : Option (IPv6 × List Char) :=
  let (head, mixed, rest) := takeGroups 8 true s
  if head.length = 8 then some (IPv6.ofList head, rest)
  else if mixed then none
  else do
    let rest ← takeChar ':' rest
    let rest ← takeChar ':' rest
    let (tail, _, rest) := takeGroups (7 - head.length) true rest
    let gap := List.replicate (8 - head.length - tail.length) 0
    return (IPv6.ofList (head ++ gap ++ tail), rest)

/-- Takes an address of either family. -/
def IpAddress.take (s : List Char) : Option (IpAddress × List Char) :=
  match IPv4.take s with
  | some (ip, rest) => some (.v4 ip, rest)
  | none => (IPv6.take s).map fun (ip, rest) => (.v6 ip, rest)

/-- Takes a colon and a port. -/
def takePort (s : List Char) : Option (UInt16 × List Char) := do
  let (n, rest) ← takeNumber 65536 (← takeChar ':' s)
  return (UInt16.ofNat n, rest)

/-- Takes a percent sign and a scope number; without them the scope is zero. -/
def takeScope (s : List Char) : UInt32 × List Char :=
  match takeChar '%' s >>= takeNumber 4294967296 with
  | some (n, rest) => (UInt32.ofNat n, rest)
  | none => (0, s)

/-- Takes a socket address: `a.b.c.d:port` or `[groups%scope]:port`. -/
def SocketAddress.take (s : List Char) : Option (SocketAddress × List Char) :=
  let v4? : Option (SocketAddress × List Char) := do
    let (ip, s) ← IPv4.take s
    let (port, s) ← takePort s
    return (.v4 ip port, s)
  match v4? with
  | some found => some found
  | none => do
    let (ip, s) ← IPv6.take (← takeChar '[' s)
    let (scope, s) := takeScope s
    let (port, s) ← takePort (← takeChar ']' s)
    return (.v6 ip scope port, s)

/-- What a reader finds when it uses up the whole text. -/
def whole {α : Type} (read : List Char → Option (α × List Char)) (s : String) : Option α :=
  match read s.toList with
  | some (found, []) => some found
  | _ => none

/-- The address that a text writes. -/
def IpAddress.parse? (s : String) : Option IpAddress :=
  whole IpAddress.take s

/-- The socket address that a text writes. -/
def SocketAddress.parse? (s : String) : Option SocketAddress :=
  whole SocketAddress.take s

/-! ## Printers -/

/-- Dotted decimal. -/
def IPv4.toText (ip : IPv4) : List Char :=
  Digit.write 10 ip.a.toNat ++ '.' :: Digit.write 10 ip.b.toNat ++ '.' :: Digit.write 10 ip.c.toNat
    ++ '.' :: Digit.write 10 ip.d.toNat

/-- The number of zero groups at the front. -/
def zerosAtFront (groups : List UInt16) : Nat :=
  (groups.takeWhile (· == 0)).length

/-- The longest run of zero groups as its start and length; of several equally
long runs, the first. `start` is the position of the list's head. -/
def longestZeros (start : Nat) : List UInt16 → Nat × Nat
  | [] => (start, 0)
  | g :: rest =>
    let here := zerosAtFront (g :: rest)
    let later := longestZeros (start + 1) rest
    if later.2 > here then later else (start, here)

/-- Groups in hexadecimal with colons between them. -/
def colonSeparated (groups : List UInt16) : List Char :=
  [':'].intercalate (groups.map fun g => Digit.write 16 g.toNat)

/-- The IPv4 address that an IPv4-mapped address stands for. -/
def IPv6.mapped? (ip : IPv6) : Option IPv4 :=
  match ip.groups.toList with
  | [0, 0, 0, 0, 0, 0xFFFF, x, y] =>
    some ⟨UInt8.ofNat (x.toNat / 256), UInt8.ofNat (x.toNat % 256),
      UInt8.ofNat (y.toNat / 256), UInt8.ofNat (y.toNat % 256)⟩
  | _ => none

/-- The canonical form of an IPv6 address. -/
def IPv6.toText (ip : IPv6) : List Char :=
  match ip.mapped? with
  | some v4 => "::ffff:".toList ++ v4.toText
  | none =>
    let groups := ip.groups.toList
    let (start, count) := longestZeros 0 groups
    if count > 1 then
      colonSeparated (groups.take start) ++ "::".toList ++ colonSeparated (groups.drop (start + count))
    else colonSeparated groups

/-- The canonical form of an address. -/
def IpAddress.toText : IpAddress → List Char
  | .v4 ip => ip.toText
  | .v6 ip => ip.toText

instance : ToString IpAddress := ⟨fun ip => String.ofList ip.toText⟩

/-- The IPv4 loopback address. -/
def IpAddress.loopback : IpAddress := .v4 ⟨127, 0, 0, 1⟩

/-- The address part of a socket address. -/
def SocketAddress.ip : SocketAddress → IpAddress
  | .v4 ip _ => .v4 ip
  | .v6 ip _ _ => .v6 ip

/-- The socket address of an address and a port. -/
def IpAddress.withPort (port : UInt16) : IpAddress → SocketAddress
  | .v4 ip => .v4 ip port
  | .v6 ip => .v6 ip 0 port

/-- The written form of a socket address. -/
def SocketAddress.toText : SocketAddress → List Char
  | .v4 ip port => ip.toText ++ ':' :: Digit.write 10 port.toNat
  | .v6 ip scope port =>
    '[' :: ip.toText ++ (if scope = 0 then [] else '%' :: Digit.write 10 scope.toNat)
      ++ ']' :: ':' :: Digit.write 10 port.toNat

instance : ToString SocketAddress := ⟨fun a => String.ofList a.toText⟩

/-- The port of a socket address. -/
def SocketAddress.port : SocketAddress → UInt16
  | .v4 _ port => port
  | .v6 _ _ port => port

end ShellGateway.Net
