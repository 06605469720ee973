import ShellGateway.Terminal.Relay
import ShellGateway.Web.Pump

/-!
# Web terminals

A web client is connected with the shell of a session by two pumps, two pipes
and a terminal. The input pump writes to one pipe, from which the terminal
reads; the terminal writes to the other, from which the output pump reads. A
pipe holds no more than its capacity, so whoever writes waits for whoever reads,
and a terminal that waits with output hears nobody else in the meantime.

`Connection.step` is one move of one of the parties, when nothing fails. Who
moves next and how many bytes a move takes along is left open. Client, remote
host and control queue speak by script: each has a list of what it will still
say, and when the list is at its end it is silent.
-/

namespace ShellGateway.Web

open Remote (Message)
open Session (Command)

/-- A pipe: the bytes in it, and whether nothing more will be written. -/
structure Pipe where
  contents : Bytes := []
  closed : Bool := false
  deriving DecidableEq, Repr

namespace Pipe

/-- The most that a pipe holds. -/
def capacity : Nat := 64 * 1024

/-- Writes to a pipe that has room. -/
def write (p : Pipe) (bytes : Bytes) : Option Pipe :=
  if p.contents.length + bytes.length ≤ capacity then
    some { p with contents := p.contents ++ bytes }
  else none

/-- Reads some of what a pipe holds. -/
def read (p : Pipe) (count : Nat) : Option (Bytes × Pipe) :=
  if 0 < count ∧ count ≤ readLength ∧ count ≤ p.contents.length then
    some (p.contents.take count, { p with contents := p.contents.drop count })
  else none

/-- Nothing more will come out of the pipe. -/
def isDry (p : Pipe) : Bool :=
  p.closed && p.contents.isEmpty

end Pipe

/-- A connection of a web client with a shell. -/
structure Connection where
  /-- What the client will say. -/
  client : List Incoming
  inbound : InputPump := {}
  up : Pipe := {}
  relay : TerminalTask
  /-- What the down pipe has not taken yet of the output that is relayed. -/
  output : Bytes := []
  /-- What the remote host will say: messages, or that the channel has ended. -/
  remote : List (Option Message)
  /-- What will come through the control queue: commands and how they go, or
  that it has ended. -/
  orders : List (Option (Command × Option String))
  down : Pipe := {}
  outbound : OutputPump := {}
  deriving DecidableEq

namespace Connection

/-- A connection whose shell has been started. -/
def start (terminal : Terminal) (client : List Incoming) (remote : List (Option Message))
    (orders : List (Option (Command × Option String))) : Connection :=
  { client, remote, orders, relay := { terminal, stage := .attaching } }

/-- A move of one of the parties. -/
inductive Move where
  | clientSpeaks
  | inputWritten (count : Nat)
  | relayBegins
  | relayReads (count : Nat)
  | relayReadsEnd
  | remoteSpeaks
  | outputWritten (count : Nat)
  | ordered
  /-- The relay has ended: the stream is shut down, then the channel closed. -/
  | relayReleases
  | pumpReads (count : Nat)
  | pumpReadsEnd
  | pumpSends
  deriving DecidableEq, Repr

/-- The event that a message of the remote host is for the relay. -/
def spoken : Option Message → Terminal.Event
  | some m => .message m none
  | none => .channelEnd

/-- The output that comes with it. -/
def spokenOutput : Option Message → Bytes
  | some m => m.payload?.getD []
  | none => []

/-- The event that an order is for the relay. -/
def order : Option (Command × Option String) → Terminal.Event
  | some (command, fault) => .command command fault
  | none => .queueEnd

/-- The relay meets an event, unless it is still writing. -/
def meet (c : Connection) (e : Terminal.Event) : Option Connection :=
  if c.output = [] then (c.relay.step e).map fun relay => { c with relay } else none

/-- One move. -/
def step (c : Connection) : Move → Option Connection
  | .clientSpeaks =>
    match c.client with
    | [] => none
    | i :: client =>
      (c.inbound.step (.incoming i)).map fun inbound =>
        { c with client, inbound, up := { c.up with closed := c.up.closed || i.isLast } }
  | .inputWritten n => do
    let inbound ← c.inbound.step (.taken n)
    let up ← c.up.write (c.inbound.pending.take n)
    return { c with inbound, up }
  | .relayBegins => c.meet .attached
  | .relayReads n => do
    let (chunk, up) ← c.up.read n
    let c ← c.meet (.input chunk none)
    return { c with up }
  | .relayReadsEnd => if c.up.isDry then c.meet .inputEnd else none
  | .remoteSpeaks =>
    match c.remote with
    | [] => none
    | m :: remote => (c.meet (spoken m)).map ({ · with remote, output := spokenOutput m })
  | .outputWritten n =>
    if 0 < n ∧ n ≤ c.output.length then
      (c.down.write (c.output.take n)).map ({ c with output := c.output.drop n, down := · })
    else none
  | .ordered =>
    match c.orders with
    | [] => none
    | o :: orders => (c.meet (order o)).map ({ · with orders })
  | .relayReleases =>
    (c.meet (.released false)).map fun c => { c with down := { c.down with closed := true } }
  | .pumpReads n => do
    let (piece, down) ← c.down.read n
    let outbound ← c.outbound.step (.read piece)
    return { c with down, outbound }
  | .pumpReadsEnd =>
    if c.down.isDry then (c.outbound.step .readEnd).map ({ c with outbound := · }) else none
  | .pumpSends => (c.outbound.step .sent).map ({ c with outbound := · })

/-- The connection after moves, as far as they can be made. -/
def run (c : Connection) (moves : List Move) : Option Connection :=
  moves.foldlM step c

/-- Nobody can move. -/
def AtRest (c : Connection) : Prop :=
  ∀ m, c.step m = none

end Connection

end ShellGateway.Web
