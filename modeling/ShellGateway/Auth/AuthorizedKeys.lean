import ShellGateway.Text.Base64
import ShellGateway.Text.Blank

/-!
# Lists of authorised keys

One key a line: `[options] type data [comment]`. The type is one of
`keyTypes`, the data is base 64, the options stand before the type and are
separated by commas, and the comment is the rest of the line. A line whose
first word is a type has no options. Blank lines, lines that begin with a hash
sign and lines that do not have this form contribute nothing.
-/

namespace ShellGateway.Auth

/-- One line of a key list. -/
structure AuthorizedKey where
  keyType : List Char
  bytes : Bytes
  comment : Option (List Char)
  options : List (List Char)
  deriving DecidableEq, Repr

namespace AuthorizedKey

/-- The types of key that are recognised. -/
def keyTypes : List (List Char) :=
  ["ssh-ed25519", "ssh-rsa", "ecdsa-sha2-nistp256", "ecdsa-sha2-nistp384", "ecdsa-sha2-nistp521",
    "ssh-dss", "sk-ssh-ed25519@openssh.com", "sk-ecdsa-sha2-nistp256@openssh.com"].map String.toList

/-- The key that follows a type: data and comment. -/
def ofData? (options : List (List Char)) (keyType rest : List Char) : Option AuthorizedKey :=
  let (data, comment) := Text.splitWord rest
  if data.isEmpty then none
  else do
    let bytes ← Base64.decode? data
    return { keyType, bytes, comment := if comment.isEmpty then none else some comment, options }

/-- The key on a trimmed line. -/
def ofLine? (line : List Char) : Option AuthorizedKey :=
  let (first, rest) := Text.splitWord line
  if keyTypes.contains first then ofData? [] first rest
  else
    let (keyType, rest) := Text.splitWord rest
    if keyTypes.contains keyType then ofData? (Text.splitOn ',' first) keyType rest else none

/-- Whether a trimmed line may hold a key at all. -/
def mayHoldKey (line : List Char) : Bool :=
  !line.isEmpty && line.head? != some '#'

/-- The keys of a list, in order. -/
def ofText (content : List Char) : List AuthorizedKey :=
  (((Text.lines content).map Text.trim).filter mayHoldKey).filterMap ofLine?

end AuthorizedKey

end ShellGateway.Auth
