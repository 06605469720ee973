import ShellGateway.Programs.Task
import ShellGateway.Remote.Message
import ShellGateway.Session.Control

/-!
# Terminals

A terminal connects a web client's stream with a shell channel of a remote
host. First it asks the remote host for a terminal and a shell and waits for the
answers; then it installs a control queue and relays, one event at a time, until
either side ends:

- output of the remote host goes to the stream as it is;
- input from the stream goes to the remote host as it is, and counts as activity;
- commands from the control queue pass on a window, or end the terminal.

When the relay has ended, the stream is shut down and the channel closed. If the
shell cannot be started, the stream is told why and shut down instead.

`Terminal.step` is one event. The terminal keeps account of everything it has
done, so that what it relayed can be compared with what it was given.
-/

namespace ShellGateway

open Programs (TaskEnd)
open Remote (Message)
open Session (Command Ticket)

namespace Terminal

/-- What a remote host is asked for before anything is relayed. -/
inductive Asking where
  | pty
  | shell
  deriving DecidableEq, Repr

/-- The name of a request in failures. -/
def Asking.name : Asking → String
  | pty => "pty-req"
  | shell => "shell"

/-- The failure of a request that is refused. -/
def Asking.refused (a : Asking) : Failure :=
  .process ("remote refused " ++ a.name)

/-- The failure of a request that is never answered. -/
def Asking.unanswered (a : Asking) : Failure :=
  .transport ("channel closed during " ++ a.name)

/-- Where a terminal stands. -/
inductive Stage where
  /-- A request is about to be sent. -/
  | asking (what : Asking)
  /-- The answer to a request is awaited. -/
  | awaiting (what : Asking)
  /-- The control queue is about to be installed. -/
  | attaching
  | relaying
  /-- The stream is about to be told why no shell could be started. -/
  | reporting (why : Failure)
  /-- The stream is about to be shut down; the channel is closed after that
  unless there was no shell. -/
  | shuttingDown (result : Except Failure Unit) (hadShell : Bool)
  /-- The channel is about to be closed. -/
  | closing (result : Except Failure Unit)
  | ended (how : TaskEnd (Except Failure Unit))
  deriving DecidableEq

/-- A window that was passed on, for whom, and how that went. -/
structure Forwarded where
  ticket : Ticket
  window : Window
  result : Except Failure Unit
  deriving DecidableEq

/-- How writing to the stream can fail: on the way, when the first `taken` bytes
have been written, or after, when the written bytes are to be pushed out. -/
inductive StreamFault where
  | writing (taken : Nat) (detail : String)
  | flushing (detail : String)
  deriving DecidableEq, Repr

/-- The failure that ends a terminal whose stream fails. -/
def StreamFault.failure : StreamFault → Failure
  | writing _ detail => .io detail
  | flushing detail => .io detail

/-- How sending on the channel can fail: on the way, when the first `taken` bytes
have been sent. -/
structure SendFault where
  taken : Nat
  detail : String
  deriving DecidableEq, Repr

/-- What a terminal meets, with how the step that it causes goes. -/
inductive Event where
  /-- A request was sent, or could not be. -/
  | requested (fault : Option String)
  | message (message : Message) (fault : Option StreamFault)
  | channelEnd
  /-- The control queue is installed. -/
  | attached
  | input (chunk : Bytes) (fault : Option SendFault)
  | inputEnd
  | inputFailed (detail : String)
  | command (command : Command) (fault : Option String)
  | queueEnd
  /-- The stream was told why no shell could be started, or could not be: then so
  many bytes of it had been written. -/
  | reported (cut : Option Nat)
  /-- The stream was shut down or the channel closed, or could not be. -/
  | released (failed : Bool)
  | brokeDown
  /-- The task was stopped; it is known by this number. -/
  | stopped (task : Nat)
  deriving DecidableEq, Repr

end Terminal

open Terminal in
/-- A terminal: what it asks for, where it stands, and what it has done. -/
structure TerminalTask where
  terminal : Terminal
  stage : Stage := .asking .pty
  /-- What was written to the stream. -/
  written : Bytes := []
  /-- What was sent on the channel. -/
  sent : Bytes := []
  forwarded : List Forwarded := []
  /-- How often activity was recorded. -/
  activities : Nat := 0
  shutdowns : Nat := 0
  closes : Nat := 0
  deriving DecidableEq

namespace TerminalTask

open Terminal

/-- The text that tells the stream why no shell could be started. -/
def startFailureText (why : Failure) : String :=
  "\r\nfailed to start shell: " ++ why.message ++ "\r\n"

/-- Ends the relay. -/
def leave (t : TerminalTask) (result : Except Failure Unit) : TerminalTask :=
  { t with stage := .shuttingDown result true }

/-- Tells the stream why no shell could be started. However that goes, the stream
is shut down next. -/
def report (t : TerminalTask) (why : Failure) (cut : Option Nat) : TerminalTask :=
  let text := Bytes.ofText (startFailureText why)
  { t with
    written := t.written ++ match cut with
      | none => text
      | some taken => text.take taken
    stage := .shuttingDown (.error why) false }

/-- Gives up starting the shell. -/
def giveUp (t : TerminalTask) (why : Failure) : TerminalTask :=
  { t with stage := .reporting why }

/-- The stage after a request was granted. -/
def granted : Asking → Stage
  | .pty => .asking .shell
  | .shell => .attaching

/-- Writes output of the remote host to the stream. -/
def relayOutput (t : TerminalTask) (bytes : Bytes) : Option StreamFault → TerminalTask
  | none => { t with written := t.written ++ bytes }
  | some (.writing taken detail) =>
    { t with written := t.written ++ bytes.take taken }.leave
      (.error (StreamFault.writing taken detail).failure)
  | some (.flushing detail) =>
    { t with written := t.written ++ bytes }.leave (.error (StreamFault.flushing detail).failure)

/-- Sends input to the remote host. -/
def relayInput (t : TerminalTask) (chunk : Bytes) (fault : Option SendFault) : TerminalTask :=
  let t := { t with activities := t.activities + 1 }
  match fault with
  | none => { t with sent := t.sent ++ chunk }
  | some fault =>
    { t with sent := t.sent ++ chunk.take fault.taken }.leave (.error (.link fault.detail))

/-- Passes a window on. -/
def relayWindow (t : TerminalTask) (ticket : Ticket) (window : Window) (fault : Option String) :
    TerminalTask :=
  let result : Except Failure Unit :=
    match fault with
    | none => .ok ()
    | some detail => .error (.link detail)
  { t with forwarded := t.forwarded ++ [⟨ticket, window, result⟩] }

/-- One event while a request awaits its answer. -/
def stepAwaiting (t : TerminalTask) (what : Asking) : Event → Option TerminalTask
  | .message .success _ => some { t with stage := granted what }
  | .message .failure _ => some (t.giveUp what.refused)
  | .message .close _ => some (t.giveUp what.unanswered)
  | .message _ _ => some t
  | .channelEnd => some (t.giveUp what.unanswered)
  | _ => none

/-- One event while the terminal relays. -/
def stepRelaying (t : TerminalTask) : Event → Option TerminalTask
  | .message .close _ => some (t.leave (.ok ()))
  | .message m fault =>
    match m.payload? with
    | some bytes => some (t.relayOutput bytes fault)
    | none => some t
  | .channelEnd => some (t.leave (.ok ()))
  | .input chunk fault => some (t.relayInput chunk fault)
  | .inputEnd => some (t.leave (.ok ()))
  | .inputFailed detail => some (t.leave (.error (.io detail)))
  | .command (.resize ticket window) fault => some (t.relayWindow ticket window fault)
  | .command .close _ => some (t.leave (.ok ()))
  | .queueEnd => some (t.leave (.ok ()))
  | _ => none

/-- One event of the terminal's own course. -/
def advance (t : TerminalTask) (e : Event) : Option TerminalTask :=
  match t.stage with
  | .asking what =>
    match e with
    | .requested none => some { t with stage := .awaiting what }
    | .requested (some detail) => some (t.giveUp (.link detail))
    | _ => none
  | .awaiting what => t.stepAwaiting what e
  | .attaching => if e = .attached then some { t with stage := .relaying } else none
  | .relaying => t.stepRelaying e
  | .reporting why =>
    match e with
    | .reported cut => some (t.report why cut)
    | _ => none
  | .shuttingDown result hadShell =>
    match e with
    | .released _ =>
      some { t with
        shutdowns := t.shutdowns + 1
        stage := if hadShell then .closing result else .ended (.finished result) }
    | _ => none
  | .closing result =>
    match e with
    | .released _ => some { t with closes := t.closes + 1, stage := .ended (.finished result) }
    | _ => none
  | .ended _ => none

/-- Whether the terminal has ended, and how. -/
def end? (t : TerminalTask) : Option (TaskEnd (Except Failure Unit)) :=
  match t.stage with
  | .ended how => some how
  | _ => none

/-- One event. A terminal that has not ended can break down or be stopped at any
time. -/
def step (t : TerminalTask) (e : Event) : Option TerminalTask :=
  match t.end?, e with
  | some _, _ => none
  | none, .brokeDown => some { t with stage := .ended .brokeDown }
  | none, .stopped task => some { t with stage := .ended (.stopped task) }
  | none, e => t.advance e

/-- The terminal after events, as far as they can happen. -/
def run (t : TerminalTask) : List Event → Option TerminalTask
  | [] => some t
  | e :: rest => t.step e >>= fun t => t.run rest

end TerminalTask

end ShellGateway
