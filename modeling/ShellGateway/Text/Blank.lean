/-!
# White space and words

`isBlank` is the Unicode property White_Space: 25 characters in 10 ranges.
Texts are split into lines and words by this class, not by the four ASCII
blanks, because key files and user texts may hold any of them.
-/

namespace ShellGateway.Text

/-- Closed ranges of code points with the property White_Space, ascending. -/
def blankRanges : List (Nat × Nat) :=
  [(0x09, 0x0D), (0x20, 0x20), (0x85, 0x85), (0xA0, 0xA0), (0x1680, 0x1680),
   (0x2000, 0x200A), (0x2028, 0x2029), (0x202F, 0x202F), (0x205F, 0x205F), (0x3000, 0x3000)]

/-- Whether a code point lies in one of the closed ranges. -/
def inRanges (ranges : List (Nat × Nat)) (n : Nat) : Bool :=
  ranges.any fun r => r.1 ≤ n && n ≤ r.2

/-- Whether a character is white space. -/
def isBlank (c : Char) : Bool :=
  inRanges blankRanges c.toNat

/-- Drops the blanks at the front. -/
def trimStart (s : List Char) : List Char :=
  s.dropWhile isBlank

/-- Drops the blanks at the end. -/
def trimEnd (s : List Char) : List Char :=
  (s.reverse.dropWhile isBlank).reverse

/-- Drops the blanks at both ends. -/
def trim (s : List Char) : List Char :=
  trimEnd (trimStart s)

/-- The first word after any blanks, and the trimmed rest. -/
def splitWord (s : List Char) : List Char × List Char :=
  let s := trimStart s
  (s.takeWhile (! isBlank ·), trim (s.dropWhile (! isBlank ·)))

/-- The pieces of a text between the occurrences of a separator. There is
always at least one piece. -/
def splitOn (sep : Char) : List Char → List (List Char)
  | [] => [[]]
  | c :: rest =>
    if c = sep then [] :: splitOn sep rest
    else
      match splitOn sep rest with
      | [] => [[c]]
      | piece :: pieces => (c :: piece) :: pieces

/-- The part before the first separator and, if it occurs, the part after it. -/
def cut (sep : Char) : List Char → List Char × Option (List Char)
  | [] => ([], none)
  | c :: rest =>
    if c = sep then ([], some rest)
    else
      let (before, after) := cut sep rest
      (c :: before, after)

/-- Drops one carriage return at the end. -/
def dropReturn (s : List Char) : List Char :=
  match s.reverse with
  | '\r' :: r => r.reverse
  | _ => s

/-- The lines of a text: the pieces between line feeds, a carriage return right
before a line feed dropped with it. A last line without a line feed keeps its
carriage return, and no line follows a final line feed. -/
def lines (s : List Char) : List (List Char) :=
  match (splitOn '\n' s).reverse with
  | [] => []
  | last :: earlier =>
    let ended := earlier.reverse.map dropReturn
    if last.isEmpty then ended else ended ++ [last]

end ShellGateway.Text
