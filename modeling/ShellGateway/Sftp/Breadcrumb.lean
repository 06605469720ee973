import ShellGateway.Text.Blank

/-!
# Breadcrumbs

The trail from the root directory to a directory: one crumb for the root and
one for each non-empty segment, each with the path that leads to it. Repeated
and trailing slashes make no crumbs of their own, and every path is taken from
the root.
-/

namespace ShellGateway.Sftp

/-- One step of the trail: the name to show and the path it leads to. -/
structure Breadcrumb where
  name : List Char
  path : List Char
  deriving DecidableEq, Repr

namespace Breadcrumb

/-- The non-empty segments of a directory text. -/
def segments (dir : List Char) : List (List Char) :=
  (Text.splitOn '/' dir).filter (!·.isEmpty)

/-- The crumb of the root directory. -/
def root : Breadcrumb := ⟨['/'], ['/']⟩

/-- The crumbs of segments below the path `above`, which has no final slash. -/
def below (above : List Char) : List (List Char) → List Breadcrumb
  | [] => []
  | name :: rest =>
    let path := above ++ '/' :: name
    ⟨name, path⟩ :: below path rest

/-- The trail to a directory. -/
def trail (dir : List Char) : List Breadcrumb :=
  root :: below [] (segments dir)

end Breadcrumb

end ShellGateway.Sftp
