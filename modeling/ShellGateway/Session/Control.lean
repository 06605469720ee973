import ShellGateway.Failure

/-!
# Control queues

The terminal that drives a session's shell takes commands from a bounded queue:
to pass on a new window, and to stop. Whoever asks for a window holds a ticket
by which the answer is handed back.

A queue ends for its reader when nothing waits in it and nobody can send any
more; it ends for its senders when the reader has gone, and what was waiting is
dropped.
-/

namespace ShellGateway.Session

/-- Names one request for a window for good. -/
abbrev Ticket := Nat

/-- What a terminal can be told. -/
inductive Command where
  | resize (ticket : Ticket) (window : Window)
  | close
  deriving DecidableEq, Repr

/-- The ticket of a command. -/
def Command.ticket? : Command → Option Ticket
  | resize ticket _ => some ticket
  | close => none

/-- What has become of a request for a window. -/
inductive Reply where
  | awaited
  | given (result : Except Failure Unit)
  /-- Nobody will answer. -/
  | dropped
  deriving DecidableEq

/-- A control queue: what waits in it, how many can send, and whether the reader
is still there. -/
structure ControlQueue where
  queued : List Command := []
  senders : Nat := 1
  reading : Bool := true
  deriving DecidableEq, Repr

namespace ControlQueue

/-- How many commands may wait. -/
def capacity : Nat := 10

/-- Whether a command may be added. -/
def hasRoom (q : ControlQueue) : Bool :=
  q.queued.length < capacity

/-- Whether a command that is sent now reaches the queue at once. -/
def accepts (q : ControlQueue) : Bool :=
  q.reading && q.hasRoom

/-- Adds a command at the end. -/
def push (q : ControlQueue) (c : Command) : ControlQueue :=
  { q with queued := q.queued ++ [c] }

/-- Another sender. -/
def shared (q : ControlQueue) : ControlQueue :=
  { q with senders := q.senders + 1 }

/-- One sender less. -/
def released (q : ControlQueue) : ControlQueue :=
  { q with senders := q.senders - 1 }

/-- The queue after its reader has gone. -/
def abandoned (q : ControlQueue) : ControlQueue :=
  { q with queued := [], reading := false }

/-- Whether the reader has nothing left to wait for. -/
def isOver (q : ControlQueue) : Bool :=
  q.queued.isEmpty && q.senders == 0

end ControlQueue

end ShellGateway.Session
