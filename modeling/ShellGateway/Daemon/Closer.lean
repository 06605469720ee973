/-!
# Closing a channel

Several tasks may want a channel closed: the one that runs its program, the one
that relays its output, the one that serves files on it, and the one that lets go
of the shell. They share one closer. Whoever marks it first kills the program, if
there is one, then sends the end of output and the close. A kill without a close
takes the program in the same way, so that it is killed once.

Calls are split where others can come in between: at the mark, at the program and
at each message. Killing is one step, since the program stays locked while it is
killed.
-/

namespace ShellGateway.Daemon

/-- A message that ends a channel, and whether it could not be sent. -/
inductive EndMessage where
  | eof (failed : Bool)
  | close (failed : Bool)
  deriving DecidableEq, Repr

/-- A channel's closer: whether closing has begun, whether a program is there to
be killed, how often one was killed, and the messages in the order of sending,
each along with the number of kills before it. -/
structure Closer where
  marked : Bool := false
  hasProgram : Bool := true
  kills : Nat := 0
  sent : List (EndMessage × Nat) := []
  deriving DecidableEq, Repr

namespace Closer

/-- How far a call has come. A close that finds the closer marked by another has
nothing to do. -/
inductive Call where
  | kill
  | close
  | killThenEnd
  | sendEof
  | sendClose
  | returned (byMarker : Bool)
  deriving DecidableEq, Repr

/-- Takes the program and kills it, if it is there. -/
def takeProgram (c : Closer) : Closer :=
  if c.hasProgram then { c with hasProgram := false, kills := c.kills + 1 } else c

/-- Sends a message. -/
def send (c : Closer) (m : EndMessage) : Closer :=
  { c with sent := c.sent ++ [(m, c.kills)] }

/-- One step of a call; `failed` is whether a message that is sent by this step
could not be. -/
def step (failed : Bool) (c : Closer) : Call → Option (Closer × Call)
  | .kill => some (c.takeProgram, .returned false)
  | .close =>
    some ({ c with marked := true }, if c.marked then .returned false else .killThenEnd)
  | .killThenEnd => some (c.takeProgram, .sendEof)
  | .sendEof => some (c.send (.eof failed), .sendClose)
  | .sendClose => some (c.send (.close failed), .returned true)
  | .returned _ => none

/-- A closer and the calls on it, by number. -/
structure System where
  closer : Closer := {}
  calls : List Call
  deriving DecidableEq, Repr

/-- Lets one call take a step. -/
def System.move (s : System) (call : Nat) (failed : Bool) : Option System := do
  let c ← s.calls[call]?
  let (closer, c) ← s.closer.step failed c
  return { closer, calls := s.calls.set call c }

/-- The system after a schedule of steps, if all of them can be taken. -/
def System.run (s : System) : List (Nat × Bool) → Option System
  | [] => some s
  | (call, failed) :: rest => s.move call failed >>= fun s => s.run rest

end Closer

end ShellGateway.Daemon
