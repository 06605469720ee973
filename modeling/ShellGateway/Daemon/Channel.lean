import ShellGateway.Daemon.Options
import ShellGateway.Programs.Program

/-!
# Channels of a connection

A client opens channels on its connection, and each goes through `Phase`: a
terminal may be configured any number of times, then exactly one of a shell, a
command or file transfer is started, and nothing is started after that. A shell
that cannot be started closes the channel.

`Connection.handle` answers one request with the replies to send, in order, and
what is to be started. Whether a shell can be started is not for the channel to
know; the answer comes with the request.
-/

namespace ShellGateway.Daemon

open Programs (Program)

/-- What a channel can be asked to run. -/
inductive Activity where
  | shell
  | exec
  | sftp
  deriving DecidableEq, Repr

/-- Where a channel stands. -/
inductive Phase where
  | awaitingRequest
  | ptyConfigured
  | shellAttached
  | execRunning
  | sftpServing
  | closed
  deriving DecidableEq, Repr

namespace Phase

/-- Whether a terminal may still be configured. -/
def acceptsPty : Phase → Bool
  | awaitingRequest | ptyConfigured => true
  | shellAttached | execRunning | sftpServing | closed => false

/-- The phase of a channel that runs an activity. -/
def running : Activity → Phase
  | .shell => shellAttached
  | .exec => execRunning
  | .sftp => sftpServing

/-- The phase after an activity is started, if it may be. -/
def begin? (p : Phase) (a : Activity) : Option Phase :=
  if p.acceptsPty then some (running a) else none

end Phase

/-! ## Shells and their windows -/

/-- How many window changes may wait for a shell. -/
def resizeCapacity : Nat := 10

/-- A shell on a channel: what was started, on which terminal, and the windows
that have reached it, wait in its queue, or wait for room in the queue. -/
structure Shell where
  program : Program
  terminal : Terminal
  applied : List Window := []
  queued : List Window := []
  blocked : Option Window := none
  /-- The consumer of the queue has stopped, and the queue with it. -/
  stopped : Bool := false
  deriving DecidableEq, Repr

namespace Shell

/-- Sends a window. Without room in the queue the sender waits. -/
def send (s : Shell) (w : Window) : Shell :=
  if s.stopped then s
  else if s.queued.length < resizeCapacity then { s with queued := s.queued ++ [w] }
  else { s with blocked := some w }

/-- Lets the consumer apply the next window; a sender that waits for room gets
it. -/
def consume (s : Shell) : Shell :=
  if s.stopped then s
  else
    match s.queued with
    | [] => s
    | w :: rest =>
      { s with
        applied := s.applied ++ [w.capped]
        queued := rest ++ s.blocked.toList
        blocked := none }

/-- Stops the consumer. What waits is dropped. -/
def stop (s : Shell) : Shell :=
  { s with queued := [], blocked := none, stopped := true }

/-- The size of the shell's terminal. -/
def size (s : Shell) : Window :=
  s.applied.getLastD s.terminal.window.capped

end Shell

/-- A task that belongs to a channel. -/
inductive Task where
  | exec (program : Program)
  | sftp (root : String)
  deriving DecidableEq, Repr

/-- A channel. -/
structure Channel where
  phase : Phase := .awaitingRequest
  /-- The stream of the channel has not been handed out yet. -/
  held : Bool := true
  terminal : Option Terminal := none
  environment : Dictionary String String := .empty
  shell : Option Shell := none
  tasks : List Task := []
  deriving Repr

/-- Hands out the channel's stream for an activity, if it may be started. -/
def Channel.start? (c : Channel) (a : Activity) : Option Channel :=
  match c.phase.begin? a with
  | some phase => if c.held then some { c with phase, held := false } else none
  | none => none

/-! ## Requests -/

/-- The number of a channel on its connection. -/
abbrev ChannelId := Nat

/-- What a client asks of a channel. -/
inductive Request where
  | openChannel
  | pty (term : String) (window : Window)
  | windowChange (window : Window)
  | setVariable (name value : String)
  | shell
  | exec (command : Bytes)
  | subsystem (name : String)
  | eof
  | close
  deriving DecidableEq, Repr

/-- What the daemon sends on a channel when it answers a request. -/
inductive Reply where
  | success
  | failure
  | errorText (text : String)
  | close
  deriving DecidableEq, Repr

/-- What is started on a channel. -/
inductive Launch where
  | shell (program : Program) (terminal : Terminal)
  | exec (program : Program)
  | sftp (root : String)
  deriving DecidableEq, Repr

/-- One client's connection: the name it logged in under, and its channels. -/
structure Connection where
  user : Option String := none
  channels : Dictionary ChannelId Channel := .empty
  deriving Repr

/-- The answer to a request. -/
structure Answer where
  connection : Connection
  replies : List Reply := []
  launch : Option Launch := none
  deriving Repr

/-- What of the daemon's options bears on channels. -/
structure ChannelOptions where
  shell : String
  workDir : Option String
  envPassthrough : Bool
  /-- The directory that programs start in when none is set. -/
  currentDir : Option String
  deriving DecidableEq, Repr

/-- The directory that file transfers see. -/
def ChannelOptions.sftpRoot (o : ChannelOptions) : String :=
  (o.workDir <|> o.currentDir).getD "/"

/-- The name of the subsystem for file transfers. -/
def sftpSubsystem : String := "sftp"

/-- The text sent when a shell cannot be started. -/
def shellFailureText (why : Failure) : String :=
  "failed to start shell: " ++ why.message ++ "\r\n"

namespace Connection

/-- Puts a channel back. -/
def put (c : Connection) (id : ChannelId) (channel : Channel) : Connection :=
  { c with channels := c.channels.insert id channel }

/-- Refuses a request. -/
def refuse (c : Connection) : Answer :=
  { connection := c, replies := [.failure] }

/-- Configures the terminal of a channel. An unnamed type is the standard one. -/
def configure (c : Connection) (id : ChannelId) (term : String) (window : Window) : Answer :=
  match c.channels.get? id with
  | some channel =>
    if channel.phase.acceptsPty then
      let term := if term.isEmpty then standardTerm else term
      { connection :=
          c.put id { channel with phase := .ptyConfigured, terminal := some ⟨term, window⟩ }
        replies := [.success] }
    else c.refuse
  | none => c.refuse

/-- Changes the window of a channel: of its shell, or else of its terminal. -/
def changeWindow (c : Connection) (id : ChannelId) (window : Window) : Connection :=
  match c.channels.get? id with
  | some channel =>
    match channel.shell with
    | some shell => c.put id { channel with shell := some (shell.send window) }
    | none =>
      match channel.terminal with
      | some terminal => c.put id { channel with terminal := some { terminal with window } }
      | none => c
  | none => c

/-- Sets a variable for what will be started on a channel. -/
def setVariable (o : ChannelOptions) (c : Connection) (id : ChannelId) (name value : String) :
    Answer :=
  if o.envPassthrough then
    match c.channels.get? id with
    | some channel =>
      { connection := c.put id { channel with environment := channel.environment.insert name value }
        replies := [.success] }
    | none => c.refuse
  else c.refuse

/-- Starts the shell on a channel. -/
def startShell (o : ChannelOptions) (attach : Program → Terminal → Except Failure Unit)
    (c : Connection) (id : ChannelId) : Answer :=
  match c.channels.get? id with
  | none => c.refuse
  | some channel =>
    let program := Program.interactive o.shell channel.environment o.workDir
    match channel.start? .shell with
    | none => c.refuse
    | some started =>
      let terminal := channel.terminal.getD .standard
      match attach program terminal with
      | .ok () =>
        { connection := c.put id { started with shell := some { program, terminal } }
          replies := [.success]
          launch := some (.shell program terminal) }
      | .error why =>
        { connection := c.put id { started with phase := .closed }
          replies := [.errorText (shellFailureText why), .failure, .close] }

/-- Runs a command on a channel. -/
def startExec (o : ChannelOptions) (c : Connection) (id : ChannelId) (command : Bytes) : Answer :=
  match c.channels.get? id with
  | none => c.refuse
  | some channel =>
    let program := Program.command o.shell command.lossyText channel.environment o.workDir
    match channel.start? .exec with
    | none => c.refuse
    | some started =>
      { connection := c.put id { started with tasks := started.tasks ++ [.exec program] }
        replies := [.success]
        launch := some (.exec program) }

/-- Starts a subsystem on a channel; there is one, for file transfers. -/
def startSubsystem (o : ChannelOptions) (c : Connection) (id : ChannelId) (name : String) :
    Answer :=
  if name = sftpSubsystem then
    match c.channels.get? id with
    | none => c.refuse
    | some channel =>
      match channel.start? .sftp with
      | none => c.refuse
      | some started =>
        { connection := c.put id { started with tasks := started.tasks ++ [.sftp o.sftpRoot] }
          replies := [.success]
          launch := some (.sftp o.sftpRoot) }
  else c.refuse

/-- Answers a request on a channel. -/
def handle (o : ChannelOptions) (attach : Program → Terminal → Except Failure Unit)
    (c : Connection) (id : ChannelId) : Request → Answer
  | .openChannel => { connection := c.put id {} }
  | .pty term window => c.configure id term window
  | .windowChange window => { connection := c.changeWindow id window }
  | .setVariable name value => c.setVariable o id name value
  | .shell => c.startShell o attach id
  | .exec command => c.startExec o id command
  | .subsystem name => c.startSubsystem o id name
  | .eof => { connection := c }
  | .close => { connection := { c with channels := c.channels.erase id } }

/-! ## Logins -/

/-- Answers a login with a password. The client learns no more than whether it
was accepted. -/
def loginWithPassword (accounts : Auth.Accounts) (now : Instant) (c : Connection)
    (username secret : String) : Connection × Bool :=
  match accounts.decidePassword username secret now with
  | .ok identity => ({ c with user := some identity }, true)
  | .error _ => (c, false)

/-- Answers a login with a key. -/
def loginWithKey (accounts : Auth.Accounts) (c : Connection) (username : String) (key : Bytes) :
    Connection × Bool :=
  if accounts.acceptsKey key then ({ c with user := some username }, true) else (c, false)

end Connection

/-- Numbers connections from one on. -/
structure ConnectionCounter where
  handedOut : Nat := 0
  deriving DecidableEq, Repr

/-- The next number. -/
def ConnectionCounter.next (c : ConnectionCounter) : Nat × ConnectionCounter :=
  (c.handedOut + 1, ⟨c.handedOut + 1⟩)

/-- The first `n` numbers that are handed out from here on. -/
def ConnectionCounter.take : Nat → ConnectionCounter → List Nat
  | 0, _ => []
  | n + 1, c =>
    let (id, c) := c.next
    id :: take n c

end ShellGateway.Daemon
