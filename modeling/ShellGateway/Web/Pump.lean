import ShellGateway.Text.Bytes

/-!
# Websocket pumps

Two pumps stand between a web client and its terminal. The input pump writes
what text and binary frames carry to the terminal, in order, until the client
closes, the connection breaks or the terminal takes no more; then it shuts the
terminal's input down. The output pump reads the terminal's output a buffer at a
time and sends each piece as one binary frame; when the output has ended or a
frame could not be sent, it closes the connection.

A terminal takes what is written to it in parts, as it has room. `step` is one
event of a pump; the pumps keep account of what they have done.
-/

namespace ShellGateway.Web

/-- A frame on a websocket. -/
inductive Frame where
  | text (text : String)
  | binary (bytes : Bytes)
  | ping (bytes : Bytes)
  | pong (bytes : Bytes)
  | close
  deriving DecidableEq, Repr

/-- The terminal input that a frame carries. -/
def Frame.payload? : Frame → Option Bytes
  | text s => some (.ofText s)
  | binary bytes => some bytes
  | ping _ | pong _ | close => none

/-! ## Input -/

/-- What comes from a web client: a frame, the news that the connection is
broken, or that nothing more comes. -/
inductive Incoming where
  | frame (frame : Frame)
  | broken
  | ended
  deriving DecidableEq, Repr

/-- The terminal input that comes with it. -/
def Incoming.payload : Incoming → Bytes
  | frame f => f.payload?.getD []
  | broken | ended => []

/-- Whether the pump stops at it. -/
def Incoming.isLast : Incoming → Bool
  | frame .close | broken | ended => true
  | frame _ => false

/-- The input pump: what it is writing, and what it has done to the terminal. -/
structure InputPump where
  /-- What the terminal has not taken yet of the frame that is written. -/
  pending : Bytes := []
  written : Bytes := []
  shutdowns : Nat := 0
  deriving DecidableEq, Repr

namespace InputPump

/-- What an input pump meets. -/
inductive Event where
  | incoming (incoming : Incoming)
  /-- The terminal has taken some of what is written. -/
  | taken (count : Nat)
  /-- The terminal takes no more. -/
  | refused
  deriving DecidableEq, Repr

/-- The pump stops. -/
def stop (p : InputPump) : InputPump :=
  { p with pending := [], shutdowns := p.shutdowns + 1 }

/-- One event. The next frame is awaited when the last one has been written. -/
def step (p : InputPump) : Event → Option InputPump
  | .incoming i =>
    if p.shutdowns = 0 ∧ p.pending = [] then
      some (if i.isLast then p.stop else { p with pending := i.payload })
    else none
  | .taken n =>
    if 0 < n ∧ n ≤ p.pending.length then
      some { p with pending := p.pending.drop n, written := p.written ++ p.pending.take n }
    else none
  | .refused => if p.pending = [] then none else some p.stop

/-- The pump after events, as far as they can happen. -/
def run (p : InputPump) (es : List Event) : Option InputPump :=
  es.foldlM step p

end InputPump

/-! ## Output -/

/-- The most that is read at once. -/
def readLength : Nat := 8192

/-- The output pump: what it is sending, and what it has done to the
connection. -/
structure OutputPump where
  /-- The piece of output that has been read and not been sent. -/
  piece : Bytes := []
  sent : List Frame := []
  closes : Nat := 0
  deriving DecidableEq, Repr

namespace OutputPump

/-- What an output pump meets. -/
inductive Event where
  | read (piece : Bytes)
  /-- The output has ended, or cannot be read. -/
  | readEnd
  | sent
  | sendFailed
  deriving DecidableEq, Repr

/-- The pump stops. -/
def stop (p : OutputPump) : OutputPump :=
  { p with piece := [], closes := p.closes + 1 }

/-- One event. A piece is read when the last one has been sent. -/
def step (p : OutputPump) : Event → Option OutputPump
  | .read piece =>
    if p.closes = 0 ∧ p.piece = [] ∧ piece ≠ [] ∧ piece.length ≤ readLength then
      some { p with piece }
    else none
  | .readEnd => if p.closes = 0 ∧ p.piece = [] then some p.stop else none
  | .sent =>
    if p.piece = [] then none
    else some { p with piece := [], sent := p.sent ++ [.binary p.piece] }
  | .sendFailed => if p.piece = [] then none else some p.stop

/-- The pump after events, as far as they can happen. -/
def run (p : OutputPump) (es : List Event) : Option OutputPump :=
  es.foldlM step p

end OutputPump

end ShellGateway.Web
