import ShellGateway.Net.Address
import ShellGateway.Text.Blank

/-!
# Hosts given by number

Where a host may be named, it may also be given by its address, and more freely
written than addresses elsewhere. An IPv4 address has one to four parts; each
but the last is one byte, and the last fills all the bytes that are left. A part
is decimal, octal when it starts with `0`, or hexadecimal when it starts with
`0x`. An IPv6 address is in one of its usual forms, and may name the link it
belongs to after a percent sign: by number or, if it means something on one link
only, by the link's name.
-/

namespace ShellGateway.Net

/-! ## IPv4 -/

/-- One part of an IPv4 address. -/
def part? : List Char → Option Nat
  | '0' :: 'x' :: rest | '0' :: 'X' :: rest => Digit.read? 16 rest
  | '0' :: c :: rest => Digit.read? 8 (c :: rest)
  | s => Digit.read? 10 s

/-- The number that parts make when the last of them fills `bytes` bytes with
what the others leave of them. -/
def joinParts? : (bytes : Nat) → List Nat → Option Nat
  | 0, _ | _, [] => none
  | bytes + 1, [last] => if last < Nat.pow 256 (bytes + 1) then some last else none
  | bytes + 1, first :: rest =>
    if first < 256 then (joinParts? bytes rest).map (first * Nat.pow 256 bytes + ·) else none

/-- The IPv4 address that is a number of 32 bits. -/
def IPv4.ofNat (n : Nat) : IPv4 :=
  ⟨UInt8.ofNat (n / 16777216), UInt8.ofNat (n / 65536), UInt8.ofNat (n / 256), UInt8.ofNat n⟩

/-- The IPv4 address that a text gives by number. -/
def IPv4.numeric? (host : List Char) : Option IPv4 := do
  let parts ← (Text.splitOn '.' host).mapM part?
  (joinParts? 4 parts).map .ofNat

/-! ## IPv6 -/

/-- Whether an address means something on one link, or on one machine, only. -/
def IPv6.isLinkLocal (ip : IPv6) : Bool :=
  let first := ip.groups[0]
  first &&& 0xFFC0 == 0xFE80 || first &&& 0xFF0F == 0xFF02 || first &&& 0xFF0F == 0xFF01

/-- The number of the link that a text names; `link` tells the numbers of links
by name. -/
def linkNumber? (link : String → Option UInt32) (ip : IPv6) (name : List Char) : Option UInt32 :=
  match if ip.isLinkLocal then link (String.ofList name) else none with
  | some n => some n
  | none => ((Digit.read? 10 name).filter (· < UInt32.size)).map UInt32.ofNat

/-! ## Hosts -/

/-- What a text says of a host. -/
inductive HostReading where
  | address (ofPort : UInt16 → SocketAddress)
  /-- An address on a link that does not exist. -/
  | unknownLink
  | byName

/-- Reads a host. -/
def HostReading.of (link : String → Option UInt32) (host : String) : HostReading :=
  match IPv4.numeric? host.toList with
  | some ip => address (.v4 ip)
  | none =>
    match IPv6.take host.toList with
    | some (ip, []) => address (.v6 ip 0)
    | some (ip, '%' :: name) =>
      match linkNumber? link ip name with
      | some n => address (.v6 ip n)
      | none => unknownLink
    | _ => .byName

end ShellGateway.Net
