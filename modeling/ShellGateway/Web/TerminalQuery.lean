import ShellGateway.Failure
import ShellGateway.Text.Blank
import ShellGateway.Text.Quoted

/-!
# The query of a terminal page

A web client asks for a terminal with `session_id=…&w=…&h=…`. Pairs may come in
any order and among others; of several values for one key the last counts, but
every width and height given must be a number. What is missing is reported in
the order session, width, height, and the size is judged last.
-/

namespace ShellGateway.Web

/-- The terminal a web client asks for: a session and a size. -/
structure TerminalQuery where
  sessionId : String
  window : Window
  deriving DecidableEq, Repr

namespace TerminalQuery

/-- Keys and values of a query, in order. A pair without an equals sign has an
empty value; empty pairs are dropped. -/
def pairs (query : List Char) : List (List Char × List Char) :=
  ((Text.splitOn '&' query).filter (!·.isEmpty)).map fun pair =>
    let (key, value?) := Text.cut '=' pair
    (key, value?.getD [])

/-- The last values seen so far. -/
structure Seen where
  sessionId : Option (List Char) := none
  width : Option Nat := none
  height : Option Nat := none
  deriving DecidableEq, Repr

/-- A width or height. -/
def dimension (name : String) (value : List Char) : Except Failure Nat :=
  match Digit.unsigned? UInt32.size value with
  | some n => .ok n
  | none =>
    .error (.protocol (name ++ " is not a number: " ++ Text.quoted (String.ofList value)))

/-- Takes one pair into account. -/
def Seen.note (seen : Seen) (pair : List Char × List Char) : Except Failure Seen :=
  if pair.1 = "session_id".toList then .ok { seen with sessionId := some pair.2 }
  else if pair.1 = "w".toList then do
    let n ← dimension "w" pair.2
    return { seen with width := some n }
  else if pair.1 = "h".toList then do
    let n ← dimension "h" pair.2
    return { seen with height := some n }
  else .ok seen

/-- A value that has to be there. -/
def require {α : Type} (name : String) (value? : Option α) : Except Failure α :=
  match value? with
  | some value => .ok value
  | none => .error (.protocol ("missing " ++ name))

/-- The terminal that the values seen ask for. -/
def Seen.finish (seen : Seen) : Except Failure TerminalQuery := do
  let id ← require "session_id" (seen.sessionId.filter (!·.isEmpty))
  let width ← require "w" seen.width
  let height ← require "h" seen.height
  let window ← Window.checked width height
  return ⟨String.ofList id, window⟩

/-- Reads a query. -/
def parse (query : String) : Except Failure TerminalQuery := do
  let seen ← (pairs query.toList).foldlM Seen.note {}
  seen.finish

end TerminalQuery

end ShellGateway.Web
