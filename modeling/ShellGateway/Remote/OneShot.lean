import ShellGateway.Failure
import ShellGateway.Remote.Message
import ShellGateway.Text.Quoted

/-!
# Commands run once

A command that is run for its output gets a channel of its own. Its output,
plain and extended alike, is collected in the order of arrival until the remote
host closes the channel or the connection ends; a refusal ends the run at once.

`run` reads the messages that arrive after the command has been sent. The end of
the list is the end of the connection.

The connection itself is shared: commands are run on it one after the other, beside
the shell and file transfer. `Channels` is what it has of channels, and
`Channels.exec` is one command from opening its channel on.
-/

namespace ShellGateway.Remote.OneShot

/-- What a run came to: its result, and by whom the channel has been closed. -/
structure Outcome where
  result : Except Failure Bytes
  closedHere : Bool
  closedByPeer : Bool
  deriving DecidableEq

/-- The failure of a command that the remote host refuses. -/
def refused (command : String) : Failure :=
  .process ("remote refused to run " ++ Text.quoted command)

/-- Collects output, starting with what has been collected already. -/
def collect (command : String) (collected : Bytes) : List Message → Outcome
  | [] => ⟨.ok collected, true, false⟩
  | .close :: _ => ⟨.ok collected, true, true⟩
  | .failure :: _ => ⟨.error (refused command), false, false⟩
  | .data bytes :: rest => collect command (collected ++ bytes) rest
  | .extendedData _ bytes :: rest => collect command (collected ++ bytes) rest
  | .success :: rest => collect command collected rest
  | .exitStatus _ :: rest => collect command collected rest
  | .eof :: rest => collect command collected rest
  | .other :: rest => collect command collected rest

/-- Runs a command. -/
def run (command : String) (messages : List Message) : Outcome :=
  collect command [] messages

/-! ## Channels -/

/-- The channels of a connection, which are numbered as they are opened. -/
structure Channels where
  opened : Nat
  /-- The channels that neither side has closed. -/
  live : List Nat
  numbered : ∀ n ∈ live, n < opened

/-- What happens to a command that is to be run: whether a channel can be opened for
it, whether it can be sent, and which messages arrive after that. -/
structure Attempt where
  command : String
  openFault : Option String := none
  sendFault : Option String := none
  messages : List Message
  deriving DecidableEq

namespace Channels

/-- A connection on which no channel has been opened yet. -/
def start : Channels := ⟨0, [], nofun⟩

/-- Opens a channel, and says which. -/
def take (c : Channels) : Nat × Channels :=
  (c.opened,
    { opened := c.opened + 1
      live := c.live ++ [c.opened]
      numbered := fun n hn => by
        rcases List.mem_append.mp hn with earlier | last
        · exact Nat.lt_succ_of_lt (c.numbered n earlier)
        · rw [List.mem_singleton.mp last]
          exact Nat.lt_succ_self _ })

/-- Closes a channel. -/
def close (c : Channels) (n : Nat) : Channels where
  opened := c.opened
  live := c.live.filter (· ≠ n)
  numbered m hm := c.numbered m (List.mem_filter.mp hm).1

/-- Runs a command on a channel of its own. -/
def exec (c : Channels) (a : Attempt) : Except Failure Bytes × Channels :=
  match a.openFault with
  | some detail => (.error (.link detail), c)
  | none =>
    let (n, c) := c.take
    match a.sendFault with
    | some detail => (.error (.link detail), c)
    | none =>
      let o := run a.command a.messages
      (o.result, if o.closedHere || o.closedByPeer then c.close n else c)

/-- Runs commands, one after the other. -/
def execAll (c : Channels) : List Attempt → List (Except Failure Bytes) × Channels
  | [] => ([], c)
  | a :: rest =>
    let (result, c) := c.exec a
    let (results, c) := c.execAll rest
    (result :: results, c)

end Channels

end ShellGateway.Remote.OneShot
