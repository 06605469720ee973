import ShellGateway.Text.Digit
import ShellGateway.Time.Calendar

/-!
# Instants

An instant counts seconds from 1970-01-01T00:00:00Z and nanoseconds within the
second. A leap second is kept as a second's worth of extra nanoseconds on the
second before it, so that 23:59:60 lies after 23:59:59.999 and before the next
midnight.

The written form is RFC 3339: four-digit year, `T`, seconds with an optional
fraction, and an offset from universal time. The reader also takes a lower-case
`t` or a blank for the `T`, a lower-case `z`, and the typographic minus sign;
it cuts fractions to nanoseconds.
-/

namespace ShellGateway

/-- A point in time. -/
structure Instant where
  second : Int
  nano : Nat
  deriving DecidableEq, Repr

namespace Instant

/-- Whether `a` is at or before `b`. -/
def le (a b : Instant) : Bool :=
  a.second < b.second || (a.second == b.second && a.nano ≤ b.nano)

/-! ## Reading -/

/-- Takes exactly `n` digits. -/
def takeDigits : Nat → List Char → Option (Nat × List Char)
  | n, s =>
    let digits := s.take n
    if digits.length = n then (Digit.read? 10 digits).map (·, s.drop n) else none

/-- Takes one of the given characters. -/
def takeOneOf (allowed : List Char) : List Char → Option (List Char)
  | c :: rest => if allowed.contains c then some rest else none
  | [] => none

/-- Takes an optional fraction and answers nanoseconds. -/
def takeFraction (s : List Char) : Option (Nat × List Char) :=
  match s with
  | '.' :: rest =>
    let (digits, rest) := Digit.span 10 rest
    let kept := digits.take 9
    (Digit.read? 10 kept).map fun n => (n * Nat.pow 10 (9 - kept.length), rest)
  | _ => some (0, s)

/-- Takes an offset from universal time and answers seconds. -/
def takeOffset (s : List Char) : Option (Int × List Char) :=
  match takeOneOf ['Z', 'z'] s with
  | some rest => some (0, rest)
  | none => do
    let (sign, s) : Int × List Char ←
      match s with
      | '+' :: rest => some (1, rest)
      | '-' :: rest => some (-1, rest)
      | '\u2212' :: rest => some (-1, rest)
      | _ => none
    let (hours, s) ← takeDigits 2 s
    let (minutes, s) ← takeDigits 2 (← takeOneOf [':'] s)
    if hours < 24 ∧ minutes < 60 then
      some (sign * (hours * 3600 + minutes * 60 : Nat), s)
    else none

/-- Reads an instant. -/
def parse? (text : String) : Option Instant := do
  let (year, s) ← takeDigits 4 text.toList
  let (month, s) ← takeDigits 2 (← takeOneOf ['-'] s)
  let (day, s) ← takeDigits 2 (← takeOneOf ['-'] s)
  let (hour, s) ← takeDigits 2 (← takeOneOf ['T', 't', ' '] s)
  let (minute, s) ← takeDigits 2 (← takeOneOf [':'] s)
  let (second, s) ← takeDigits 2 (← takeOneOf [':'] s)
  let (nano, s) ← takeFraction s
  let (offset, s) ← takeOffset s
  let date : Calendar.Date := ⟨year, month, day⟩
  if s.isEmpty ∧ date.valid ∧ hour < 24 ∧ minute < 60 ∧ second ≤ 60 then
    let ofDay : Int := hour * 3600 + minute * 60 + min second 59
    let leap := if second = 60 then 1000000000 else 0
    some ⟨Calendar.daysOf date * 86400 + ofDay - offset, leap + nano⟩
  else none

/-! ## Writing -/

/-- A number with at least `width` digits. -/
def padded (width n : Nat) : List Char :=
  let digits := Digit.write 10 n
  List.replicate (width - digits.length) '0' ++ digits

/-- A year: four digits, or a sign and at least four when it lies outside
0 to 9999. -/
def yearText (year : Int) : List Char :=
  if 0 ≤ year ∧ year ≤ 9999 then padded 4 year.toNat
  else (if year < 0 then '-' else '+') :: padded 4 year.natAbs

/-- The fraction of a second: nothing, or three, six or nine digits, the fewest
that lose nothing. -/
def fractionText (nano : Nat) : List Char :=
  if nano = 0 then []
  else if nano % 1000000 = 0 then '.' :: padded 3 (nano / 1000000)
  else if nano % 1000 = 0 then '.' :: padded 6 (nano / 1000)
  else '.' :: padded 9 nano

/-- An offset in minutes; universal time is `Z`. -/
def offsetText (minutes : Int) : List Char :=
  if minutes = 0 then ['Z']
  else
    (if minutes < 0 then '-' else '+')
      :: padded 2 (minutes.natAbs / 60) ++ ':' :: padded 2 (minutes.natAbs % 60)

/-- The instant as clocks show it that are the given minutes ahead of universal
time. -/
def toTextAt (offset : Int) (t : Instant) : String :=
  let shown := t.second + offset * 60
  let date := Calendar.dateOf (shown / 86400)
  let ofDay := (shown % 86400).toNat
  let leap := t.nano / 1000000000
  String.ofList <|
    yearText date.year ++ '-' :: padded 2 date.month ++ '-' :: padded 2 date.day
      ++ 'T' :: padded 2 (ofDay / 3600) ++ ':' :: padded 2 (ofDay / 60 % 60)
      ++ ':' :: padded 2 (ofDay % 60 + leap)
      ++ fractionText (t.nano % 1000000000) ++ offsetText offset

/-- The instant in universal time. -/
def toText (t : Instant) : String :=
  t.toTextAt 0

end Instant

end ShellGateway
