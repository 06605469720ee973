import ShellGateway.Text.Quoted

/-!
# Descriptions

Values are described to operators by name and fields, as in
`Target \x7b host: "h", port: 22 \x7d`. An outline says what a description
holds: names, words, and which fields may be seen; two dots stand for the
others, and `redacted` for a secret that is there. How it is laid out is decided
apart from that; `Outline.toText` puts it on one line.
-/

namespace ShellGateway.Text

/-- What is shown in place of a secret. -/
def redacted : String := "<redacted>"

/-- What a description holds. -/
inductive Outline where
  /-- Something that is shown as it stands. -/
  | word (text : String)
  /-- A value wrapped in a name. -/
  | call (name : String) (argument : Outline)
  /-- A record: its name, its visible fields, and whether there are others. -/
  | record (name : String) (fields : List (String × Outline)) (others : Bool)

namespace Outline

/-- A text, in quotes. -/
def text (s : String) : Outline := word (quoted s)

/-- A number. -/
def nat (n : Nat) : Outline := word (Digit.decimal n)

/-- A truth value. -/
def bool (b : Bool) : Outline := word (if b then "true" else "false")

/-- A value that may be missing. -/
def option : Option Outline → Outline
  | some o => call "Some" o
  | none => word "None"

mutual

/-- The description on one line. -/
def toText : Outline → String
  | word text => text
  | call name argument => name ++ "(" ++ argument.toText ++ ")"
  | record name fields others =>
    let shown := fieldTexts fields ++ (if others then [".."] else [])
    name ++ " \x7b " ++ String.intercalate ", " shown ++ " \x7d"

/-- The fields of a record, each with its name. -/
def fieldTexts : List (String × Outline) → List String
  | [] => []
  | (name, value) :: rest => (name ++ ": " ++ value.toText) :: fieldTexts rest

end

end Outline

end ShellGateway.Text
