import ShellGateway.CommandLine.Invocation
import ShellGateway.Daemon.Options

/-!
# Starting up

The steps from a command line to a listening daemon, in the order in which
their faults come to light: the command line, the settings, the accounts, the
web endpoint, the host key, the daemon's address. Which addresses the machine
can listen on is given from outside.
-/

namespace ShellGateway.CommandLine

/-- What the program meets when it starts. -/
structure Surroundings where
  files : String → Option Bytes
  environment : String → Option String
  entropy : Bytes
  /-- Whether the machine can listen at an address. -/
  canListen : Net.SocketAddress → Bool
  /-- The addresses that a text stands for where names are allowed. -/
  resolve : String → List Net.SocketAddress

/-- What comes of starting the program. -/
inductive Start where
  /-- The command line is not obeyed. -/
  | usage (why : Usage)
  /-- A later step failed. -/
  | fault (why : Invocation.Fault)
  /-- The daemon listens. -/
  | running (server : Daemon.Server)

namespace Start

/-- The exit status of a program that has stopped. -/
def exitStatus : Start → Option Nat
  | usage .displayHelp | usage .displayVersion => some 0
  | usage _ => some 2
  | fault _ => some 1
  | running _ => none

/-- The line that reports a failed step. What a path or an address says after a
line end goes to the lines below, where the reason is. -/
def errorLine : Start → Option String
  | fault why =>
    let report := "Error: " ++ why.message ++ "\n"
    (Text.lines report.toList).head?.map String.ofList
  | usage _ | running _ => none

end Start

/-- Whether the machine can listen at a text that may hold a name. -/
def Surroundings.canListenAt (around : Surroundings) (address : String) : Bool :=
  (around.resolve address).any around.canListen

/-- The steps after the command line has been read. -/
def launch (isPrime : Nat → Bool) (around : Surroundings) (i : Invocation) :
    Except Invocation.Fault Daemon.Server := do
  let settings ← i.settings around.files
  let accounts ← i.accounts around.files
  match settings.webListen with
  | some address =>
    if !around.canListenAt address then throw (.bindingWeb address)
  | none => pure ()
  let options := { Daemon.Options.ofSettings settings with accounts }
  let sources : HostKey.Source.Surroundings :=
    { fileText := fun path => around.files path >>= Bytes.text?, entropy := around.entropy }
  match options.build isPrime sources with
  | .error _ => throw .buildingDaemon
  | .ok server =>
    match server.listenAddress with
    | .ok address => if around.canListen address then return server else throw .daemonStopped
    | .error _ => throw .daemonStopped

/-- Starts the program. -/
def start (isPrime : Nat → Bool) (around : Surroundings) (words : List String) : Start :=
  match Invocation.parse words around.environment with
  | .error why => .usage why
  | .ok i =>
    match launch isPrime around i with
    | .ok server => .running server
    | .error why => .fault why

end ShellGateway.CommandLine
