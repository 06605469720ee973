import ShellGateway.HostKey.Der
import ShellGateway.Text.Base64
import ShellGateway.Text.Blank

/-!
# Key texts

The textual form of private keys: base 64 in lines of 64 letters between a
first and a last line that name the contents. Every line ends in a line feed.
The contents are an RSA key or the record that holds one.
-/

namespace ShellGateway.HostKey.Pem

/-- The contents that the first and last lines name. -/
inductive Label where
  | rsaKey
  | anyKey
  deriving DecidableEq, Repr

/-- How they are named. -/
def Label.name : Label → String
  | rsaKey => "RSA PRIVATE KEY"
  | anyKey => "PRIVATE KEY"

/-- The first line. -/
def firstLine (label : Label) : List Char :=
  "-----BEGIN ".toList ++ label.name.toList ++ "-----".toList

/-- The last line. -/
def lastLine (label : Label) : List Char :=
  "-----END ".toList ++ label.name.toList ++ "-----".toList

/-- Letters on a line. -/
def columns : Nat := 64

/-- Cuts a text into lines of `columns` letters. The first argument bounds the
number of lines. -/
def wrap : Nat → List Char → List (List Char)
  | 0, _ => []
  | fuel + 1, s =>
    if s.isEmpty then [] else s.take columns :: wrap fuel (s.drop columns)

/-- The text of bytes. -/
def encode (label : Label) (bytes : Bytes) : List Char :=
  let letters := Base64.encode bytes
  let lines := firstLine label :: wrap letters.length letters ++ [lastLine label]
  lines.flatMap (· ++ ['\n'])

/-- Whether lines are all full but the last, which is neither empty nor longer. -/
def evenLines : List (List Char) → Bool
  | [] => true
  | [line] => 0 < line.length && line.length ≤ columns
  | line :: rest => line.length == columns && evenLines rest

/-- The bytes whose text is given. -/
def decode? (label : Label) (text : List Char) : Option Bytes :=
  match Text.lines text with
  | first :: rest =>
    match rest.reverse with
    | last :: body =>
      let body := body.reverse
      if first = firstLine label ∧ last = lastLine label ∧ evenLines body then
        Base64.decode? body.flatten
      else none
    | [] => none
  | [] => none

/-- The text of a private key. -/
def ofRsa (k : Rsa) : String :=
  String.ofList (encode .rsaKey (Der.ofRsa k))

/-- The private key whose text is given. -/
def toRsa? (text : String) : Option Rsa :=
  decode? .rsaKey text.toList >>= Der.toRsa?

/-- The text of the record that holds a private key. -/
def ofNamed (k : Rsa) : String :=
  String.ofList (encode .anyKey (Der.named (Der.ofRsa k)))

/-- The private key that the record holds whose text is given. -/
def toNamed? (text : String) : Option Rsa :=
  decode? .anyKey text.toList >>= Der.takeNamed? >>= Der.toRsa?

end ShellGateway.HostKey.Pem
