import ShellGateway.Json.Value

/-!
# Reading JSON

`parse?` accepts the texts of RFC 8259 and nothing else: no trailing commas,
no comments, no byte order mark, no leading zeros or plus signs, no raw control
characters in strings, and nothing but white space after the value. Each reader
takes its item from the front of the text and returns the rest.

The nesting of values bounds the recursion: every level uses up at least one
character, so the length of the text is fuel enough.
-/

namespace ShellGateway.Json

/-- White space between the items of a text. -/
def isSpace (c : Char) : Bool :=
  c == ' ' || c == '\n' || c == '\t' || c == '\r'

/-- Drops white space at the front. -/
def skipSpace (s : List Char) : List Char :=
  s.dropWhile isSpace

/-! ## Strings -/

/-- A piece of a string: a character, or a sixteen-bit unit given by number. -/
inductive Piece where
  | char (c : Char)
  | unit (n : Nat)
  deriving DecidableEq, Repr

/-- The unit that four hexadecimal digits write. -/
def unit? (a b c d : Char) : Option Nat :=
  Digit.read? 16 [a, b, c, d]

/-- The character of a one-letter escape. -/
def escaped? : Char → Option Char
  | '"' => some '"'
  | '\\' => some '\\'
  | '/' => some '/'
  | 'b' => some '\x08'
  | 'f' => some '\x0C'
  | 'n' => some '\n'
  | 'r' => some '\r'
  | 't' => some '\t'
  | _ => none

/-- Takes the pieces of a string up to its closing quote. -/
def takePieces : List Char → Option (List Piece × List Char)
  | [] => none
  | '"' :: rest => some ([], rest)
  | '\\' :: 'u' :: a :: b :: c :: d :: rest => do
    let n ← unit? a b c d
    let (pieces, rest) ← takePieces rest
    return (.unit n :: pieces, rest)
  | '\\' :: c :: rest => do
    let e ← escaped? c
    let (pieces, rest) ← takePieces rest
    return (.char e :: pieces, rest)
  | c :: rest =>
    if c.toNat < 0x20 ∨ c = '\\' then none
    else do
      let (pieces, rest) ← takePieces rest
      return (.char c :: pieces, rest)

/-- The first unit of a pair. -/
def isHigh (n : Nat) : Bool := 0xD800 ≤ n && n < 0xDC00

/-- The second unit of a pair. -/
def isLow (n : Nat) : Bool := 0xDC00 ≤ n && n < 0xE000

/-- The text of pieces: pairs of units become one character. -/
def join? : List Piece → Text?
  | [] => some []
  | .char c :: rest => (join? rest).map (c :: ·)
  | .unit n :: .unit m :: rest =>
    if isHigh n && isLow m then
      (join? rest).map (Char.ofNat (0x10000 + (n - 0xD800) * 0x400 + (m - 0xDC00)) :: ·)
    else if isHigh n || isLow n then none
    else (join? (.unit m :: rest)).map (Char.ofNat n :: ·)
  | .unit n :: rest =>
    if isHigh n || isLow n then none else (join? rest).map (Char.ofNat n :: ·)

/-- Takes a string after its opening quote. -/
def takeString (s : List Char) : Option (Text? × List Char) := do
  let (pieces, rest) ← takePieces s
  return (join? pieces, rest)

/-! ## Numbers -/

/-- Takes the digits before the point: zero alone, or digits that do not begin
with zero. -/
def takeWhole (s : List Char) : Option (List Char × List Char) :=
  match Digit.span 10 s with
  | ([], _) => none
  | ('0' :: _, _) => some (['0'], s.drop 1)
  | (digits, rest) => some (digits, rest)

/-- Takes one or more digits. -/
def takeDigits (s : List Char) : Option (List Char × List Char) :=
  match Digit.span 10 s with
  | ([], _) => none
  | found => some found

/-- Takes an optional fraction. -/
def takeFraction (s : List Char) : Option (Option (List Char) × List Char) :=
  match s with
  | '.' :: rest => (takeDigits rest).map fun (digits, rest) => (some digits, rest)
  | _ => some (none, s)

/-- Takes an optional exponent. -/
def takeExponent (s : List Char) : Option (Option (List Char) × List Char) :=
  match s with
  | [] => some (none, [])
  | e :: rest =>
    if e = 'e' ∨ e = 'E' then
      let (sign, rest) : List Char × List Char :=
        match rest with
        | '+' :: rest => ([], rest)
        | '-' :: rest => (['-'], rest)
        | _ => ([], rest)
      (takeDigits rest).map fun (digits, rest) => (some (sign ++ digits), rest)
    else some (none, s)

/-- Takes a number. -/
def takeLiteral (s : List Char) : Option (Literal × List Char) := do
  let (negative, s) : Bool × List Char :=
    match s with
    | '-' :: rest => (true, rest)
    | _ => (false, s)
  let (whole, s) ← takeWhole s
  let (fraction, s) ← takeFraction s
  let (exponent, s) ← takeExponent s
  return (⟨negative, whole, fraction, exponent⟩, s)

/-! ## Values -/

/-- Takes a given word. -/
def takeWord (word : List Char) (s : List Char) : Option (List Char) :=
  if s.take word.length = word then some (s.drop word.length) else none

mutual

/-- Takes a value; white space in front of it is dropped. -/
def takeValue : Nat → List Char → Option (Value × List Char)
  | 0, _ => none
  | fuel + 1, s =>
    match skipSpace s with
    | [] => none
    | 'n' :: rest => (takeWord "ull".toList rest).map (Value.null, ·)
    | 't' :: rest => (takeWord "rue".toList rest).map (Value.bool true, ·)
    | 'f' :: rest => (takeWord "alse".toList rest).map (Value.bool false, ·)
    | '"' :: rest => (takeString rest).map fun (text, rest) => (.string text, rest)
    | '[' :: rest =>
      match skipSpace rest with
      | ']' :: rest => some (.array [], rest)
      | rest => (takeItems fuel rest).map fun (items, rest) => (.array items, rest)
    | '{' :: rest =>
      match skipSpace rest with
      | '}' :: rest => some (.object [], rest)
      | rest => (takeMembers fuel rest).map fun (members, rest) => (.object members, rest)
    | s => (takeLiteral s).map fun (l, rest) => (.number l, rest)

/-- Takes the items of an array and the bracket that closes it. -/
def takeItems : Nat → List Char → Option (List Value × List Char)
  | 0, _ => none
  | fuel + 1, s => do
    let (item, rest) ← takeValue fuel s
    match skipSpace rest with
    | ']' :: rest => some ([item], rest)
    | ',' :: rest =>
      let (items, rest) ← takeItems fuel rest
      return (item :: items, rest)
    | _ => none

/-- Takes the members of an object and the brace that closes it. -/
def takeMembers : Nat → List Char → Option (List (Text? × Value) × List Char)
  | 0, _ => none
  | fuel + 1, s =>
    match skipSpace s with
    | '"' :: rest => do
      let (name, rest) ← takeString rest
      match skipSpace rest with
      | ':' :: rest =>
        let (value, rest) ← takeValue fuel rest
        match skipSpace rest with
        | '}' :: rest => some ([(name, value)], rest)
        | ',' :: rest =>
          let (members, rest) ← takeMembers fuel rest
          return ((name, value) :: members, rest)
        | _ => none
      | _ => none
    | _ => none

end

/-- The value that a text writes. -/
def parse? (s : String) : Option Value :=
  let chars := s.toList
  match takeValue (2 * chars.length + 1) chars with
  | some (value, rest) => if (skipSpace rest).isEmpty then some value else none
  | none => none

end ShellGateway.Json
