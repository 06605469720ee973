import ShellGateway.Text.Blank

/-!
# Paths

A path is a text; what it names depends on the files it is looked up in. Here
it is only taken apart: whether it starts at the root, its components between
slashes, and whether a slash ends it. A slash at the end asks for a directory,
which is the same as asking for the component `.` inside it.
-/

namespace ShellGateway.Files.Path

/-- Whether a path starts at the root. -/
def isAbsolute (path : String) : Bool :=
  path.toList.head? == some '/'

/-- Whether a slash ends a path. -/
def endsInSlash (path : String) : Bool :=
  path.toList.getLast? == some '/'

/-- The components between the slashes. -/
def components (path : String) : List String :=
  ((Text.splitOn '/' path.toList).filter (!·.isEmpty)).map String.ofList

/-- The components to walk through when the path is looked up. -/
def steps (path : String) : List String :=
  if endsInSlash path then components path ++ ["."] else components path

/-- A path below a directory; an absolute path stays as it is. -/
def join (directory path : String) : String :=
  if isAbsolute path then path
  else if directory.isEmpty || endsInSlash directory then directory ++ path
  else directory ++ "/" ++ path

/-- The absolute path of a list of components. -/
def absolute (components : List String) : String :=
  "/" ++ String.intercalate "/" components

/-- What the last component of a path is. -/
inductive Last where
  /-- A name, and whether a slash follows it. -/
  | name (name : String) (slash : Bool)
  | dot
  | dotDot
  /-- The path is the root. -/
  | root
  deriving DecidableEq, Repr

/-- The components before the last one, and the last one. -/
def splitLast (path : String) : List String × Last :=
  match (components path).reverse with
  | [] => ([], .root)
  | last :: before =>
    (before.reverse,
      if last = "." then .dot
      else if last = ".." then .dotDot
      else .name last (endsInSlash path))

/-- The longest name of a component and the length that a path stays below, in
bytes. -/
def nameLimit : Nat := 255
def lengthLimit : Nat := 4096

end ShellGateway.Files.Path
