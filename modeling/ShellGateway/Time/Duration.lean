import ShellGateway.Text.Digit

/-!
# Durations

Lengths of time in whole milliseconds. Their description uses seconds from one
second on, with as many decimal places as are needed, and milliseconds below.
-/

namespace ShellGateway

/-- A length of time. -/
structure Duration where
  millis : Nat
  deriving DecidableEq, Repr

namespace Duration

/-- A number of whole seconds. -/
def ofSeconds (n : Nat) : Duration := ⟨n * 1000⟩

/-- The whole seconds of a duration. -/
def seconds (d : Duration) : Nat := d.millis / 1000

/-- The rest of a duration beyond its whole seconds, in nanoseconds. -/
def restNanos (d : Duration) : Nat := d.millis % 1000 * 1000000

/-- Whether a duration is empty. -/
def isZero (d : Duration) : Bool := d.millis == 0

/-- The decimal places of a number of thousandths, without zeros at the end. -/
def thousandths (n : Nat) : List Char :=
  if n = 0 then []
  else if n % 100 = 0 then ['.', Digit.char (n / 100)]
  else if n % 10 = 0 then ['.', Digit.char (n / 100), Digit.char (n / 10 % 10)]
  else ['.', Digit.char (n / 100), Digit.char (n / 10 % 10), Digit.char (n % 10)]

/-- The duration in the unit that suits it. -/
def describe (d : Duration) : String :=
  if d.millis = 0 then "0ns"
  else if d.millis < 1000 then Digit.decimal d.millis ++ "ms"
  else Digit.decimal d.seconds ++ String.ofList (thousandths (d.millis % 1000)) ++ "s"

end Duration

end ShellGateway
