import ShellGateway.Json.Printer
import ShellGateway.Json.Reader
import ShellGateway.Proofs.Text.Digits

/-!
# The texts of JSON values

`Writes` says which texts write which value: RFC 8259 with all the freedom it leaves, in white
space and in how the characters of a string are spelled. A character stands for itself where it
may, has a letter after a backslash, or is given by number, in one unit of sixteen bits or in two;
whichever is chosen, the string denotes the same text (`Denotes`). A number is written in one way
only, up to the mark and the plus sign of its exponent.

The printer keeps to this (`writes_written`): what it prints of a value is a text of that value.
-/

namespace ShellGateway.Json

/-- Nothing but white space. -/
def AllSpace (s : List Char) : Prop :=
  ∀ c ∈ s, isSpace c = true

instance instDecidableAllSpace (s : List Char) : Decidable (AllSpace s) :=
  List.decidableBAll _ s

/-! ## Strings -/

/-- The letters that stand for a character after a backslash. -/
def letters : List (Char × Char) :=
  [('"', '"'), ('\\', '\\'), ('/', '/'), ('b', '\x08'), ('f', '\x0C'), ('n', '\n'), ('r', '\r'),
    ('t', '\t')]

/-- A piece of a string and how it may be spelled. -/
inductive Spelled : Piece → List Char → Prop where
  | plain {c : Char} (visible : 0x20 ≤ c.toNat) (noQuote : c ≠ '"') (noEscape : c ≠ '\\') :
    Spelled (.char c) [c]
  | letter {l c : Char} (h : (l, c) ∈ letters) : Spelled (.char c) ['\\', l]
  | unit {a b c d : Char} {n : Nat} (h : Digit.read? 16 [a, b, c, d] = some n) :
    Spelled (.unit n) ['\\', 'u', a, b, c, d]

/-- The pieces of a string, spelled one after the other. -/
inductive SpelledAll : List Piece → List Char → Prop where
  | nil : SpelledAll [] []
  | cons {p : Piece} {ps : List Piece} {s rest : List Char} (first : Spelled p s)
    (others : SpelledAll ps rest) : SpelledAll (p :: ps) (s ++ rest)

/-- A character and the pieces that give it: itself, its number, or the two numbers that its
number is split into when sixteen bits do not hold it. -/
inductive Gives : Char → List Piece → Prop where
  | char (c : Char) : Gives c [.char c]
  | unit {c : Char} (h : c.toNat < 0x10000) : Gives c [.unit c.toNat]
  | pair {c : Char} {high low : Nat} (isHigh : 0xD800 ≤ high ∧ high < 0xDC00)
    (isLow : 0xDC00 ≤ low ∧ low < 0xE000)
    (h : c.toNat = 0x10000 + (high - 0xD800) * 0x400 + (low - 0xDC00)) :
    Gives c [.unit high, .unit low]

/-- A text and the pieces that denote it. -/
inductive Denotes : List Char → List Piece → Prop where
  | nil : Denotes [] []
  | cons {c : Char} {text : List Char} {ps qs : List Piece} (first : Gives c ps)
    (others : Denotes text qs) : Denotes (c :: text) (ps ++ qs)

/-- A string and how it is written. Units that do not come in pairs denote no text. -/
inductive Quoted : Text? → List Char → Prop where
  | text {text : List Char} {ps : List Piece} {s : List Char} (denotes : Denotes text ps)
    (spelled : SpelledAll ps s) : Quoted (some text) ('"' :: (s ++ ['"']))
  | noText {ps : List Piece} {s : List Char} (unpaired : ∀ text, ¬ Denotes text ps)
    (spelled : SpelledAll ps s) : Quoted none ('"' :: (s ++ ['"']))

/-! ## Numbers -/

/-- One or more digits. -/
def IsDigits (s : List Char) : Prop :=
  s ≠ [] ∧ ∀ c ∈ s, Digit.IsDecimal c

/-- The digits after the point. -/
inductive Fraction : Option (List Char) → List Char → Prop where
  | none : Fraction none []
  | some {digits : List Char} (h : IsDigits digits) : Fraction (some digits) ('.' :: digits)

/-- An exponent. A plus sign is not kept. -/
inductive Exponent : Option (List Char) → List Char → Prop where
  | none : Exponent none []
  | unsigned {mark : Char} {digits : List Char} (isMark : mark = 'e' ∨ mark = 'E')
    (h : IsDigits digits) : Exponent (some digits) (mark :: digits)
  | plus {mark : Char} {digits : List Char} (isMark : mark = 'e' ∨ mark = 'E')
    (h : IsDigits digits) : Exponent (some digits) (mark :: '+' :: digits)
  | minus {mark : Char} {digits : List Char} (isMark : mark = 'e' ∨ mark = 'E')
    (h : IsDigits digits) : Exponent (some ('-' :: digits)) (mark :: '-' :: digits)

/-- The sign of a number. -/
def signOf (negative : Bool) : List Char :=
  if negative then ['-'] else []

/-- A number and how it is written. -/
inductive Numeral : Literal → List Char → Prop where
  | mk {negative : Bool} {whole f e : List Char} {fraction exponent : Option (List Char)}
    (decimal : ∀ c ∈ whole, Digit.IsDecimal c) (plain : Digit.IsPlain whole)
    (hf : Fraction fraction f) (he : Exponent exponent e) :
    Numeral ⟨negative, whole, fraction, exponent⟩ (signOf negative ++ (whole ++ (f ++ e)))

/-! ## Values -/

/-- An item of an array: its value and text, and the white space around it. -/
structure Item where
  value : Value
  before : List Char
  text : List Char
  after : List Char

/-- All that is written of an item. -/
def Item.whole (i : Item) : List Char :=
  i.before ++ (i.text ++ i.after)

/-- The white space of an item is white space. -/
structure Item.IsSpaced (i : Item) : Prop where
  before : AllSpace i.before
  after : AllSpace i.after

/-- A member of an object: its name, with white space around it, and its value as an item. -/
structure Member where
  name : Text?
  beforeName : List Char
  nameText : List Char
  afterName : List Char
  item : Item

/-- All that is written of a member. -/
def Member.whole (m : Member) : List Char :=
  m.beforeName ++ (m.nameText ++ (m.afterName ++ ':' :: m.item.whole))

/-- The white space of a member is white space, and its name is a string. -/
structure Member.IsSpaced (m : Member) : Prop where
  beforeName : AllSpace m.beforeName
  name : Quoted m.name m.nameText
  afterName : AllSpace m.afterName
  item : m.item.IsSpaced

/-- A value and a text that writes it. -/
inductive Writes : Value → List Char → Prop where
  | null : Writes .null "null".toList
  | isTrue : Writes (.bool true) "true".toList
  | isFalse : Writes (.bool false) "false".toList
  | number {l : Literal} {s : List Char} (h : Numeral l s) : Writes (.number l) s
  | string {t : Text?} {s : List Char} (h : Quoted t s) : Writes (.string t) s
  | emptyArray {w : List Char} (h : AllSpace w) : Writes (.array []) ('[' :: (w ++ [']']))
  | array {items : List Item} (nonempty : items ≠ []) (spaced : ∀ i ∈ items, i.IsSpaced)
    (written : ∀ i ∈ items, Writes i.value i.text) :
    Writes (.array (items.map (·.value)))
      ('[' :: ([','].intercalate (items.map Item.whole) ++ [']']))
  | emptyObject {w : List Char} (h : AllSpace w) : Writes (.object []) ('{' :: (w ++ ['}']))
  | object {members : List Member} (nonempty : members ≠ []) (spaced : ∀ m ∈ members, m.IsSpaced)
    (written : ∀ m ∈ members, Writes m.item.value m.item.text) :
    Writes (.object (members.map fun m => (m.name, m.item.value)))
      ('{' :: ([','].intercalate (members.map Member.whole) ++ ['}']))

/-- A text that holds a value and white space around it. -/
def Document (v : Value) (text : String) : Prop :=
  ∃ before s after, AllSpace before ∧ AllSpace after ∧ Writes v s ∧
    text.toList = before ++ (s ++ after)

end ShellGateway.Json
