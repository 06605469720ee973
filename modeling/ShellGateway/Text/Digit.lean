/-!
# Digits

Numbers are written most significant digit first, in lower case and without
leading zeros, in any base up to sixteen. `Digit.write` is the writer and
`Digit.read?` the reader; the reader also takes leading zeros and upper-case
digits, because those are what people type.
-/

namespace ShellGateway.Digit

/-- The lower-case digit of a value below 16. -/
def char (n : Nat) : Char :=
  if n < 10 then Char.ofNat (48 + n) else Char.ofNat (87 + n)

/-- The value of a digit in a base of at most 16, in either case. -/
def value? (base : Nat) (c : Char) : Option Nat :=
  let v? :=
    if '0' ≤ c ∧ c ≤ '9' then some (c.toNat - 48)
    else if 'a' ≤ c ∧ c ≤ 'f' then some (c.toNat - 87)
    else if 'A' ≤ c ∧ c ≤ 'F' then some (c.toNat - 55)
    else none
  v?.filter (· < base)

/-- Puts the digits of `n` in front of `acc`. The first argument bounds the
number of digits; `n + 1` is always enough. -/
def onto (base : Nat) : Nat → Nat → List Char → List Char
  | 0, _, acc => acc
  | fuel + 1, n, acc =>
    if n < base then char n :: acc
    else onto base fuel (n / base) (char (n % base) :: acc)

/-- The digits of a number, most significant first. -/
def write (base n : Nat) : List Char :=
  onto base (n + 1) n []

/-- The number that digits write, given the number written so far. -/
def readFrom? (base : Nat) : Nat → List Char → Option Nat
  | n, [] => some n
  | n, c :: rest =>
    match value? base c with
    | some d => readFrom? base (n * base + d) rest
    | none => none

/-- The number that one or more digits write. -/
def read? (base : Nat) : List Char → Option Nat
  | [] => none
  | c :: rest => readFrom? base 0 (c :: rest)

/-- The longest run of digits at the front, and what follows it. -/
def span (base : Nat) (s : List Char) : List Char × List Char :=
  s.span fun c => (value? base c).isSome

/-- A decimal number below `limit`, with at most one plus sign in front. -/
def unsigned? (limit : Nat) (s : List Char) : Option Nat :=
  let digits :=
    match s with
    | '+' :: rest => rest
    | _ => s
  (read? 10 digits).filter (· < limit)

/-- A number in decimal, as text. -/
def decimal (n : Nat) : String :=
  String.ofList (write 10 n)

/-- A number in hexadecimal, as text. -/
def hexadecimal (n : Nat) : String :=
  String.ofList (write 16 n)

end ShellGateway.Digit
