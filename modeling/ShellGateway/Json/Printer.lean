import ShellGateway.Json.Value

/-!
# Writing JSON

Values are written without white space. In strings the quote, the backslash
and the control characters are escaped and everything else stands as it is.
-/

namespace ShellGateway.Json

/-- The written form of one character of a string. -/
def writtenChar (c : Char) : List Char :=
  match c with
  | '"' => ['\\', '"']
  | '\\' => ['\\', '\\']
  | '\x08' => ['\\', 'b']
  | '\x0C' => ['\\', 'f']
  | '\n' => ['\\', 'n']
  | '\r' => ['\\', 'r']
  | '\t' => ['\\', 't']
  | c =>
    if c.toNat < 0x20 then
      ['\\', 'u', '0', '0', Digit.char (c.toNat / 16), Digit.char (c.toNat % 16)]
    else [c]

/-- A text in quotes. -/
def writtenText (s : List Char) : List Char :=
  '"' :: s.flatMap writtenChar ++ ['"']

/-- A number as it was written. -/
def Literal.written (l : Literal) : List Char :=
  (if l.negative then ['-'] else []) ++ l.whole
    ++ (match l.fraction with
      | some digits => '.' :: digits
      | none => [])
    ++ (match l.exponent with
      | some digits => 'e' :: digits
      | none => [])

mutual

/-- The written form of a value. A string that denotes no text is written
empty. -/
def Value.written : Value → List Char
  | .null => "null".toList
  | .bool true => "true".toList
  | .bool false => "false".toList
  | .number l => l.written
  | .string s => writtenText (s.getD [])
  | .array items => '[' :: writtenItems items
  | .object members => '{' :: writtenMembers members

/-- The items of an array and the bracket that closes it. -/
def writtenItems : List Value → List Char
  | [] => [']']
  | [item] => item.written ++ [']']
  | item :: rest => item.written ++ ',' :: writtenItems rest

/-- The members of an object and the brace that closes it. -/
def writtenMembers : List (Text? × Value) → List Char
  | [] => ['}']
  | [(name, value)] => writtenText (name.getD []) ++ ':' :: value.written ++ ['}']
  | (name, value) :: rest =>
    writtenText (name.getD []) ++ ':' :: value.written ++ ',' :: writtenMembers rest

end

/-- A value as text. -/
def Value.toText (v : Value) : String :=
  String.ofList v.written

end ShellGateway.Json
