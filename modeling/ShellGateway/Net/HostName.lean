import ShellGateway.Text.Blank

/-!
# Host names

A host name is a row of labels with dots between them, and one more dot may end
it; a dot alone is the root of all names. What does not have this form is the
name of no host and need not be looked up. Upper and lower case are the same.
-/

namespace ShellGateway.Net.HostName

/-- The longest label, and the longest name without a dot at its end. -/
def labelLimit : Nat := 63
def nameLimit : Nat := 253

/-- The characters of labels. -/
def isLabelChar (c : Char) : Bool :=
  c.isAlphanum || c == '-' || c == '_'

/-- Whether a text is a label. -/
def isLabel (s : List Char) : Bool :=
  0 < s.length && s.length ≤ labelLimit && s.all isLabelChar

/-- A name without the dot at its end. -/
def withoutEnd (name : List Char) : List Char :=
  if name.getLast? = some '.' then name.dropLast else name

/-- Whether a text has the form of a host name. A name does not begin with a dash,
so that it cannot be taken for an option. -/
def isWellFormed (name : List Char) : Bool :=
  let labels := withoutEnd name
  name == ['.']
    || (name.head? != some '-' && labels.length ≤ nameLimit
      && (Text.splitOn '.' labels).all isLabel)

/-- Whether two texts are the same name. -/
def same (a b : String) : Bool :=
  a.toList.map Char.toLower == b.toList.map Char.toLower

end ShellGateway.Net.HostName
