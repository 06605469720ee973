import ShellGateway.Auth.Accounts
import ShellGateway.HostKey.Source
import ShellGateway.Net.Admission
import ShellGateway.Settings

/-!
# Options of the daemon

The options collect what a daemon needs to run. They start from defaults or
from settings, each method replaces one of them, and `Options.build` loads the
host key; an option that is never looked at before, such as a malformed address,
is judged when it is used.
-/

namespace ShellGateway.Daemon

/-- What a daemon needs to run. -/
structure Options where
  address : String := "0.0.0.0:2222"
  version : String := "SSH-2.0-WebSSH"
  banner : Option String := none
  hostKey : HostKey.Source := .random
  shell : String := "/bin/sh"
  workDir : Option String := none
  envPassthrough : Bool := false
  keepalive : Option Duration := none
  idleTimeout : Option Duration := none
  maxAuthAttempts : Nat := 6
  authRejectionMillis : Nat := 100
  accounts : Auth.Accounts := .none
  admission : Net.Admission := .everyone
  deriving Repr

namespace Options

/-- Signs of life that a client may fail to give before it is dropped. -/
def keepaliveMax : Nat := 3

/-- The options that settings ask for. -/
def ofSettings (s : Settings) : Options where
  address := s.listenAddress
  version := s.serverVersion
  banner := s.banner
  hostKey := .seed s.hostKeySeed
  shell := s.shell
  workDir := s.workDir
  envPassthrough := s.envPassthrough
  keepalive := s.keepalive

/-- Asks silent clients for a sign of life after the given time; never, when
the time is empty. -/
def withKeepalive (o : Options) (d : Duration) : Options :=
  { o with keepalive := if d.isZero then none else some d }

/-- Replaces every occurrence of a non-empty text. The first argument bounds
the number of steps. -/
def replaceAll (old new : List Char) : Nat → List Char → List Char
  | 0, s => s
  | _, [] => []
  | fuel + 1, c :: rest =>
    if (c :: rest).take old.length = old then
      new ++ replaceAll old new fuel ((c :: rest).drop old.length)
    else c :: replaceAll old new fuel rest

/-- The place of the daemon's version in a banner. -/
def versionMark : List Char := "\x7bversion\x7d".toList

/-- A banner as clients see it: the version filled in, and a line end added
when there is none. -/
def renderBanner (template version : String) : String :=
  let chars := template.toList
  let text := replaceAll versionMark version.toList chars.length chars
  String.ofList (if text.getLast? = some '\n' then text else text ++ ['\r', '\n'])

/-- The options, without the host key and the accounts. -/
def outline (o : Options) : Text.Outline :=
  .record "ServerOptions"
    [("address", .text o.address), ("version", .text o.version),
     ("banner", .option (o.banner.map .text)), ("host_key", o.hostKey.outline),
     ("shell", .text o.shell), ("work_dir", .option (o.workDir.map .text)),
     ("env_passthrough", .bool o.envPassthrough),
     ("keepalive_interval", .option (o.keepalive.map fun d => .word d.describe)),
     ("idle_timeout", .option (o.idleTimeout.map fun d => .word d.describe)),
     ("max_auth_attempts", .nat o.maxAuthAttempts),
     ("auth_rejection_delay_ms", .nat o.authRejectionMillis)] true

/-- The description of options. -/
def describe (o : Options) : String := o.outline.toText

/-- Options that are still being collected. -/
def describeBuilder (o : Options) : String :=
  (Text.Outline.record "ServerBuilder" [("options", o.outline)] false).toText

end Options

/-- A daemon that is ready to listen. -/
structure Server where
  options : Options
  hostKey : HostKey.PublicKey
  deriving Repr

/-- Loads the host key. -/
def Options.build (isPrime : Nat → Bool) (around : HostKey.Source.Surroundings) (o : Options) :
    Except Failure Server := do
  let key ← o.hostKey.load isPrime around
  return ⟨o, key⟩

namespace Server

/-- The banner as clients see it. -/
def banner (s : Server) : Option String :=
  s.options.banner.map fun template => Options.renderBanner template s.options.version

/-- The address to listen on. -/
def listenAddress (s : Server) : Except Failure Net.SocketAddress :=
  match Net.SocketAddress.parse? s.options.address with
  | some address => .ok address
  | none => .error .badAddress

/-- The daemon, without the host key and the accounts. -/
def describe (s : Server) : String :=
  (Text.Outline.record "Server" [("options", s.options.outline)] true).toText

end Server

end ShellGateway.Daemon
