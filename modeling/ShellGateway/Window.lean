/-!
# Windows and terminals

A window is a terminal's size in character cells. Web clients may only ask for
sizes that a terminal page can show, `Window.Admissible`; the daemon takes any
size from its clients and caps it when the operating system's sixteen bits are
reached (`Window.capped`).
-/

namespace ShellGateway

/-- A terminal's size: columns and rows. -/
structure Window where
  width : Nat
  height : Nat
  deriving DecidableEq, Repr

namespace Window

/-- Eighty columns and twenty-four rows. -/
def standard : Window := ⟨80, 24⟩

/-- Narrowest and widest sizes a web client may ask for, in columns. -/
def minWidth : Nat := 40
def maxWidth : Nat := 8192

/-- Lowest and highest sizes a web client may ask for, in rows. -/
def minHeight : Nat := 2
def maxHeight : Nat := 4096

/-- The sizes a web client may ask for. -/
def Admissible (w : Window) : Prop :=
  minWidth ≤ w.width ∧ w.width ≤ maxWidth ∧ minHeight ≤ w.height ∧ w.height ≤ maxHeight

instance (w : Window) : Decidable w.Admissible := by
  unfold Admissible
  infer_instance

/-- The largest dimension a kernel's terminal can have. -/
def cellLimit : Nat := 65535

/-- The size as the kernel can hold it. -/
def capped (w : Window) : Window :=
  ⟨min w.width cellLimit, min w.height cellLimit⟩

/-- Columns, a cross, rows. -/
def toText (w : Window) : String :=
  toString w.width ++ "x" ++ toString w.height

end Window

/-- The terminal type that is announced when none is named. -/
def standardTerm : String := "xterm-256color"

/-- A terminal: its type and its size. -/
structure Terminal where
  term : String
  window : Window
  deriving DecidableEq, Repr

/-- The terminal of a client that asked for none. -/
def Terminal.standard : Terminal := ⟨standardTerm, .standard⟩

end ShellGateway
