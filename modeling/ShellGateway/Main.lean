import ShellGateway.CommandLine.Startup
import ShellGateway.HostKey.Prime
import ShellGateway.Net.Target

/-!
# The program

Gathers what `CommandLine.start` asks for, lets it decide, and reports. Sockets
are not this program's business: a daemon that could listen is announced, and the
program ends.
-/

namespace ShellGateway.Main

/-- The variables of the environment that switches can be given by. -/
def environment : IO (List (String × String)) := do
  let names := CommandLine.switches.filterMap (·.environment)
  let values ← names.mapM fun name => do return (name, ← IO.getEnv name)
  return values.filterMap fun (name, value?) => value?.map (name, ·)

/-- The contents of a file, if it can be read. -/
def contents? (path : String) : IO (Option Bytes) := do
  try
    return some (← IO.FS.readBinFile path).toList
  catch _ =>
    return none

/-- The files that a command line names, with their contents. -/
def namedFiles (words : List String) (lookup : String → Option String) :
    IO (List (String × Option Bytes)) := do
  match CommandLine.Invocation.parse words lookup with
  | .error _ => return []
  | .ok i =>
    (i.config.toList ++ i.authorizedKeys.toList).mapM fun path => do
      return (path, ← contents? path)

/-- What a list of pairs says of a name. -/
def valueOf {α : Type} (pairs : List (String × α)) (name : String) : Option α :=
  (pairs.find? (·.1 == name)).map (·.2)

/-- Everything that the program meets when it starts. -/
def surroundings (words : List String) : IO CommandLine.Surroundings := do
  let lookup := valueOf (← environment)
  let files ← namedFiles words lookup
  let entropy ← IO.getRandomBytes 32
  return {
    files := fun path => (valueOf files path).join
    environment := lookup
    entropy := entropy.toList
    canListen := fun _ => true
    resolve := Net.resolveLocally }

end ShellGateway.Main

/-- Starts the program and reports what came of it. -/
def main (words : List String) : IO UInt32 := do
  let around ← ShellGateway.Main.surroundings words
  let start := ShellGateway.CommandLine.start ShellGateway.HostKey.Prime.strong around words
  match start with
  | .running server => IO.println ("ready to listen at " ++ server.options.address)
  | .usage _ | .fault _ =>
    match start.errorLine with
    | some line => IO.eprintln line
    | none => pure ()
  return UInt32.ofNat (start.exitStatus.getD 0)
