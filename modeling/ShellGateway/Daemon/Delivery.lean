import ShellGateway.Daemon.Closer
import ShellGateway.Text.Bytes

/-!
# Delivering a program's output

What a client is sent while a program runs on a channel that stays open, and in
which order. All output comes first, then the exit status, then the end of output
and the close, which are the closer's to send.

A command has two outputs, copied to the client side by side; its exit status is
asked for when both have ended. A shell has one, its terminal, which is read by
one task and sent by another with a bounded queue between them; a third waits for
the shell to exit. Beside all this the client's input is pumped to the program,
until it ends, the program takes no more of it, or nothing is left to be sent.
`step` lets one of the tasks go on; what it cannot do yet it does not do.
-/

namespace ShellGateway.Daemon

/-- A message to the client of a channel. -/
inductive Outgoing where
  | data (bytes : Bytes)
  | extendedData (bytes : Bytes)
  | exitStatus (status : Nat)
  | eof
  | close
  deriving DecidableEq, Repr

namespace Outgoing

/-- The plain output that messages carry. -/
def output (sent : List Outgoing) : Bytes :=
  sent.flatMap fun
    | data bytes => bytes
    | _ => []

/-- The extended output that messages carry. -/
def extendedOutput (sent : List Outgoing) : Bytes :=
  sent.flatMap fun
    | extendedData bytes => bytes
    | _ => []

end Outgoing

/-- What the client gets of a message that ends its channel. -/
def EndMessage.outgoing : EndMessage → Outgoing
  | eof _ => .eof
  | close _ => .close

/-- How a channel ends once its program has: the exit status is due, or the closer
has been called. -/
inductive Ending where
  | statusDue (status : Nat)
  | closing (call : Closer.Call)
  deriving DecidableEq, Repr

/-- One step of ending a channel: what is sent, the closer, and what is due
next. -/
def Ending.step? (c : Closer) : Ending → Option (List Outgoing × Closer × Ending)
  | statusDue status => some ([.exitStatus status], c, closing .close)
  | closing call =>
    match c.step false call with
    | some (c', call) =>
      some ((c'.sent.drop c.sent.length).map (·.1.outgoing), c', closing call)
    | none => none

/-- How many pieces of a shell's output or input may wait between two tasks. -/
def pumpCapacity : Nat := 64

/-! ## Commands -/

/-- The exit status that is reported for a command that cannot be started. -/
def notStarted : Nat := 127

/-- The exit status that is reported for a command that died without one. -/
def unknownStatus : Nat := 255

/-- What comes of starting a command: why it cannot be started, or what it will
write, in the pieces in which it is read, and the status with which it exits, if
it does. -/
inductive Started where
  | failed (why : String)
  | running (output errors : List Bytes) (status : Option Nat)
  deriving DecidableEq, Repr

/-- The text that tells a client why a program cannot be started. -/
def startFailureText (program why : String) : String :=
  "failed to start " ++ program ++ ": " ++ why ++ "\r\n"

/-- Where the delivery of a command's output stands. -/
inductive CommandStage where
  | starting (started : Started)
  | copying (output errors : List Bytes) (status : Option Nat)
  | ending (ending : Ending)
  deriving DecidableEq, Repr

/-- The input of a command: what the client is still to send, what the command has
taken, and whether it is being pumped. -/
structure CommandInput where
  toCome : List Bytes
  taken : List Bytes := []
  pumping : Bool := false
  deriving DecidableEq, Repr

/-- One step of the task that pumps input to a command; `refused` is whether the
command takes no more. -/
def CommandInput.step (i : CommandInput) (refused : Bool) : Option CommandInput :=
  if !i.pumping then none
  else
    match i.toCome with
    | [] => some { i with pumping := false }
    | piece :: rest =>
      if refused then some { i with pumping := false }
      else some { i with toCome := rest, taken := i.taken ++ [piece] }

/-- The delivery of a command's output. -/
structure CommandDelivery where
  program : String
  stage : CommandStage
  input : CommandInput
  closer : Closer := { hasProgram := false }
  sent : List Outgoing := []
  deriving DecidableEq, Repr

/-- Which task of a command's delivery goes on. -/
inductive CommandTask where
  | outputCopier
  | errorCopier
  | inputPump (refused : Bool)
  | runner
  deriving DecidableEq, Repr

namespace CommandDelivery

/-- The delivery of a command that is about to be started, and the input that its
client will send. -/
def make (program : String) (started : Started) (input : List Bytes) : CommandDelivery where
  program := program
  stage := .starting started
  input := { toCome := input }

/-- One step of the task that starts the command and waits for it. Its exit status
is not asked for before both outputs have ended. -/
def stepRunner (d : CommandDelivery) : Option CommandDelivery :=
  match d.stage with
  | .starting (.failed why) =>
    some { d with
      stage := .ending (.statusDue notStarted)
      sent := d.sent ++ [.extendedData (.ofText (startFailureText d.program why))] }
  | .starting (.running output errors status) =>
    some { d with
      stage := .copying output errors status
      input := { d.input with pumping := true } }
  | .copying [] [] status =>
    some { d with
      stage := .ending (.statusDue (status.getD unknownStatus))
      input := { d.input with pumping := false } }
  | .copying _ _ _ => none
  | .ending e =>
    match e.step? d.closer with
    | some (messages, closer, e) =>
      some { d with stage := .ending e, closer, sent := d.sent ++ messages }
    | none => none

/-- One step of one task. -/
def step (d : CommandDelivery) : CommandTask → Option CommandDelivery
  | .outputCopier =>
    match d.stage with
    | .copying (piece :: output) errors status =>
      some { d with stage := .copying output errors status, sent := d.sent ++ [.data piece] }
    | _ => none
  | .errorCopier =>
    match d.stage with
    | .copying output (piece :: errors) status =>
      some { d with stage := .copying output errors status, sent := d.sent ++ [.extendedData piece] }
    | _ => none
  | .inputPump refused => (d.input.step refused).map fun input => { d with input }
  | .runner => d.stepRunner

/-- The delivery after a schedule of steps, if all of them can be taken. -/
def run (d : CommandDelivery) : List CommandTask → Option CommandDelivery
  | [] => some d
  | t :: rest => d.step t >>= fun d => d.run rest

end CommandDelivery

/-! ## Shells -/

/-- The input of a shell: what the client is still to send, what waits, what the
terminal has taken, and which of the two tasks are there that pass it on. -/
structure ShellInput where
  toCome : List Bytes
  waiting : List Bytes := []
  taken : List Bytes := []
  reading : Bool := true
  writing : Bool := true
  deriving DecidableEq, Repr

namespace ShellInput

/-- One step of the task that reads from the client. -/
def stepReader (i : ShellInput) : Option ShellInput :=
  if !i.reading then none
  else
    match i.toCome with
    | [] => some { i with reading := false }
    | piece :: rest =>
      if !i.writing then some { i with reading := false }
      else if i.waiting.length < pumpCapacity then
        some { i with toCome := rest, waiting := i.waiting ++ [piece] }
      else none

/-- One step of the task that writes to the terminal; `refused` is whether the
terminal takes no more. -/
def stepWriter (i : ShellInput) (refused : Bool) : Option ShellInput :=
  if !i.writing then none
  else
    match i.waiting with
    | [] => if i.reading then none else some { i with writing := false }
    | piece :: rest =>
      if refused then some { i with waiting := [], writing := false }
      else some { i with waiting := rest, taken := i.taken ++ [piece] }

end ShellInput

/-- Where the task stands that sends a shell's output. -/
inductive SenderStage where
  | relaying
  | awaitingExit
  | ending (ending : Ending)
  deriving DecidableEq, Repr

/-- The delivery of a shell's output: what is still to be read, what waits, whether
reading has ended, the exit status once it is known, and where sending stands. -/
structure ShellDelivery where
  toRead : List Bytes
  waiting : List Bytes := []
  readEnded : Bool := false
  /-- The status with which the shell exits. -/
  willExit : Nat
  exited : Option Nat := none
  input : ShellInput
  stage : SenderStage := .relaying
  closer : Closer := {}
  sent : List Outgoing := []
  deriving DecidableEq, Repr

/-- Which task of a shell's delivery goes on. -/
inductive ShellTask where
  | reader
  | waiter
  | sender
  | inputReader
  | inputWriter (refused : Bool)
  deriving DecidableEq, Repr

namespace ShellDelivery

/-- The delivery of a shell that has been started: the output that its terminal will
have, in the pieces in which it is read, its exit status, and the input that its
client will send. -/
def make (output : List Bytes) (status : Nat) (input : List Bytes) : ShellDelivery where
  toRead := output
  willExit := status
  input := { toCome := input }

/-- One step of the task that reads the terminal. -/
def stepReader (d : ShellDelivery) : Option ShellDelivery :=
  if d.readEnded then none
  else
    match d.toRead with
    | [] => some { d with readEnded := true }
    | piece :: rest =>
      if d.waiting.length < pumpCapacity then
        some { d with toRead := rest, waiting := d.waiting ++ [piece] }
      else none

/-- One step of the task that sends to the client. When all output has been sent it
stops the input and waits for the exit status. -/
def stepSender (d : ShellDelivery) : Option ShellDelivery :=
  match d.stage with
  | .relaying =>
    match d.waiting with
    | piece :: rest => some { d with waiting := rest, sent := d.sent ++ [.data piece] }
    | [] =>
      if d.readEnded then
        some { d with stage := .awaitingExit, input := { d.input with reading := false } }
      else none
  | .awaitingExit =>
    match d.exited with
    | some status => some { d with stage := .ending (.statusDue status) }
    | none => none
  | .ending e =>
    match e.step? d.closer with
    | some (messages, closer, e) =>
      some { d with stage := .ending e, closer, sent := d.sent ++ messages }
    | none => none

/-- One step of one task. -/
def step (d : ShellDelivery) : ShellTask → Option ShellDelivery
  | .reader => d.stepReader
  | .waiter => if d.exited.isSome then none else some { d with exited := some d.willExit }
  | .sender => d.stepSender
  | .inputReader => d.input.stepReader.map fun input => { d with input }
  | .inputWriter refused => (d.input.stepWriter refused).map fun input => { d with input }

/-- The delivery after a schedule of steps, if all of them can be taken. -/
def run (d : ShellDelivery) : List ShellTask → Option ShellDelivery
  | [] => some d
  | t :: rest => d.step t >>= fun d => d.run rest

end ShellDelivery

end ShellGateway.Daemon
