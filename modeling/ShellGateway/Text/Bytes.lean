import ShellGateway.Text.Digit

/-!
# Bytes and their textual forms

Everything the gateway relays is a list of bytes. This module holds the two
readings of bytes as text that the program needs:

- `Bytes.text?` accepts exactly the well-formed UTF-8 sequences.
- `Bytes.lossyText` accepts every sequence: each maximal ill-formed piece is
  replaced by one U+FFFD, and reading resumes at the first byte that could not
  continue the piece. Command lines arrive as bytes and are read this way, so a
  command is never refused for its encoding.

Hexadecimal text (`Bytes.hex`, `Bytes.ofHex?`) is lower case and two digits a
byte.
-/

namespace ShellGateway

/-- A sequence of bytes: file contents, terminal input and output, keys. -/
abbrev Bytes := List UInt8

/-- The UTF-8 bytes of a text. -/
def Bytes.ofText (s : String) : Bytes :=
  s.toUTF8.toList

/-- The text whose UTF-8 bytes are given, if there is one. -/
def Bytes.text? (bytes : Bytes) : Option String :=
  String.fromUTF8? (ByteArray.mk bytes.toArray)

namespace Utf8

/-- The character that stands for an ill-formed piece. -/
def replacement : Char := '\uFFFD'

/-- A character whose lead byte has been read: how many bytes it still wants
after the next one, the bounds of the next one, and the payload so far. The
bounds shut out over-long forms, surrogates and everything above U+10FFFF. -/
structure Pending where
  more : Nat
  low : UInt8
  high : UInt8
  bits : Nat
  deriving DecidableEq, Repr

/-- What a byte means at the start of a character: characters that are already
complete, and one that is still pending. -/
def lead (b : UInt8) : List Char × Option Pending :=
  if b < 0x80 then ([Char.ofNat b.toNat], none)
  else if 0xC2 ≤ b && b ≤ 0xDF then ([], some ⟨0, 0x80, 0xBF, b.toNat % 0x20⟩)
  else if b == 0xE0 then ([], some ⟨1, 0xA0, 0xBF, 0⟩)
  else if b == 0xED then ([], some ⟨1, 0x80, 0x9F, 0xD⟩)
  else if 0xE0 ≤ b && b ≤ 0xEF then ([], some ⟨1, 0x80, 0xBF, b.toNat % 0x10⟩)
  else if b == 0xF0 then ([], some ⟨2, 0x90, 0xBF, 0⟩)
  else if b == 0xF4 then ([], some ⟨2, 0x80, 0x8F, 4⟩)
  else if 0xF0 ≤ b && b ≤ 0xF4 then ([], some ⟨2, 0x80, 0xBF, b.toNat % 0x08⟩)
  else ([replacement], none)

/-- Decodes bytes after an optional unfinished character. A byte that cannot
continue the character ends it as one `replacement` and is read afresh. -/
def decodeFrom : Option Pending → Bytes → List Char
  | none, [] => []
  | some _, [] => [replacement]
  | none, b :: rest =>
    let (done, pending) := lead b
    done ++ decodeFrom pending rest
  | some p, b :: rest =>
    if p.low ≤ b && b ≤ p.high then
      let bits := p.bits * 0x40 + b.toNat % 0x40
      match p.more with
      | 0 => Char.ofNat bits :: decodeFrom none rest
      | more + 1 => decodeFrom (some ⟨more, 0x80, 0xBF, bits⟩) rest
    else
      let (done, pending) := lead b
      replacement :: (done ++ decodeFrom pending rest)

/-- Decodes every byte sequence; each maximal ill-formed piece becomes one
`replacement`. -/
def decodeLossy (bytes : Bytes) : List Char :=
  decodeFrom none bytes

end Utf8

/-- The text that bytes are read as when no encoding is refused. -/
def Bytes.lossyText (bytes : Bytes) : String :=
  match bytes.text? with
  | some s => s
  | none => String.ofList (Utf8.decodeLossy bytes)

/-- Lower-case hexadecimal text, two digits a byte. -/
def Bytes.hex (bytes : Bytes) : String :=
  String.ofList (bytes.flatMap fun b => [Digit.char (b.toNat / 16), Digit.char (b.toNat % 16)])

/-- The bytes that pairs of hexadecimal digits write. -/
def Digit.bytes? : List Char → Option Bytes
  | [] => some []
  | [_] => none
  | a :: b :: rest => do
    let high ← value? 16 a
    let low ← value? 16 b
    let tail ← bytes? rest
    return UInt8.ofNat (high * 16 + low) :: tail

/-- The bytes that a hexadecimal text writes. -/
def Bytes.ofHex? (s : String) : Option Bytes :=
  Digit.bytes? s.toList

/-- Splits bytes before the first occurrence of `mark`: the part before it and
the part after it, if it occurs. -/
def Bytes.splitAt? (mark : UInt8) : Bytes → Option (Bytes × Bytes)
  | [] => none
  | b :: rest =>
    if b = mark then some ([], rest)
    else (splitAt? mark rest).map fun (before, after) => (b :: before, after)

end ShellGateway
