import ShellGateway.Text.Digit

/-!
# JSON values

The values of RFC 8259. Numbers keep their literal form, since a port written
`22.0` is not the port 22 here. A string that holds an unpaired surrogate
escape is well formed but denotes no text; it may stand where nothing looks at
it, and nowhere else.

`Value.fields?` is the common reading of records: an object names fields in any
order among others that are ignored, an array gives them by position.
-/

namespace ShellGateway.Json

/-- A number as it was written. -/
structure Literal where
  negative : Bool
  whole : List Char
  /-- The digits after the point, if there is one. -/
  fraction : Option (List Char)
  /-- The exponent with its sign, if there is one. -/
  exponent : Option (List Char)
  deriving DecidableEq, Repr

/-- The literal of a natural number. -/
def Literal.ofNat (n : Nat) : Literal :=
  ⟨false, Digit.write 10 n, none, none⟩

/-- The natural number below `limit` that a literal writes, if it is written as
one. -/
def Literal.natBelow? (limit : Nat) (l : Literal) : Option Nat :=
  match l.negative, l.fraction, l.exponent with
  | false, none, none => (Digit.read? 10 l.whole).filter (· < limit)
  | _, _, _ => none

/-- A string: its text, or nothing when it denotes none. -/
abbrev Text? := Option (List Char)

/-- A JSON value. -/
inductive Value where
  | null
  | bool (b : Bool)
  | number (l : Literal)
  | string (s : Text?)
  | array (items : List Value)
  | object (members : List (Text? × Value))
  deriving Repr

namespace Value

/-- The value of a text. -/
def text (s : String) : Value :=
  .string (some s.toList)

/-- The value of a natural number. -/
def nat (n : Nat) : Value :=
  .number (.ofNat n)

/-- The members of a given name. -/
def named (name : List Char) (members : List (Text? × Value)) : List Value :=
  (members.filter fun m => m.1 == some name).map (·.2)

/-- The fields of a record in the order of `names`, each missing or given once.
An object may give them in any order and may hold other members; an array gives
the first of them by position. -/
def fields? (names : List (List Char)) : Value → Option (List (Option Value))
  | array items =>
    if items.length ≤ names.length then
      some (items.map some ++ List.replicate (names.length - items.length) none)
    else none
  | object members =>
    if members.all (·.1.isSome) && names.all (fun n => (named n members).length ≤ 1) then
      some (names.map fun n => (named n members).head?)
    else none
  | _ => none

/-- The text of a string. -/
def asText? : Value → Option String
  | string (some s) => some (String.ofList s)
  | _ => none

/-- A truth value. -/
def asBool? : Value → Option Bool
  | bool b => some b
  | _ => none

/-- A natural number below `limit`. -/
def asNat? (limit : Nat) : Value → Option Nat
  | number l => l.natBelow? limit
  | _ => none

/-- A value or null. -/
def orNull? {α : Type} (read : Value → Option α) : Value → Option (Option α)
  | null => some none
  | v => (read v).map some

end Value

/-- A field that may be missing. -/
def optionalField {α : Type} (default : α) (read : Value → Option α) : Option Value → Option α
  | none => some default
  | some v => read v

/-- A field that has to be there. -/
def requiredField {α : Type} (read : Value → Option α) : Option Value → Option α
  | none => none
  | some v => read v

end ShellGateway.Json
