import ShellGateway.Auth.Accounts
import ShellGateway.CommandLine.Grammar
import ShellGateway.CommandLine.UserSpec
import ShellGateway.Json.Reader
import ShellGateway.Settings

/-!
# Invocations

What the program is asked to do: the switches of its command line with their
environment variables, and how the settings and accounts follow from them. A
configuration file gives the settings that no switch gives; users come from
switches only, keys from a key file.
-/

namespace ShellGateway.CommandLine

/-- The form of log lines. -/
inductive LogFormat where
  | text
  | json
  deriving DecidableEq, Repr

/-- The name of a form on the command line. -/
def LogFormat.name : LogFormat → String
  | text => "text"
  | json => "json"

/-- The form of exactly this name. -/
def LogFormat.named? (s : String) : Option LogFormat :=
  [text, json].find? (·.name == s)

/-! ## Values -/

/-- Any value will do. -/
def anyText (_ : String) : Except Usage Unit := .ok ()

/-- A path may not be empty. -/
def path (s : String) : Except Usage Unit :=
  if s.isEmpty then .error .invalidValue else .ok ()

/-- A port: a signed decimal number whose value is a port. -/
def port? (s : String) : Option UInt16 :=
  match s.toList with
  | '-' :: digits =>
    match Digit.read? 10 digits with
    | some 0 => some 0
    | _ => none
  | chars => (Digit.unsigned? UInt16.size chars).map UInt16.ofNat

/-- A number of seconds. -/
def seconds? (s : String) : Option UInt64 :=
  (Digit.unsigned? UInt64.size s.toList).map UInt64.ofNat

/-- A value that has to be readable as something. -/
def readable {α : Type} (read : String → Option α) (fault : Usage) (s : String) :
    Except Usage Unit :=
  if (read s).isSome then .ok () else .error fault

/-! ## Switches -/

/-- The switches of the program, in the order in which the environment is
asked. -/
def switches : List Switch :=
  [{ long := "config", letter := some 'c', environment := some "WEBSSH_CONFIG", action := .set path },
   { long := "listen-host", environment := some "WEBSSH_LISTEN_HOST", action := .set anyText },
   { long := "listen-port", environment := some "WEBSSH_LISTEN_PORT",
     action := .set (readable port? .valueValidation) },
   { long := "shell", environment := some "WEBSSH_SHELL", action := .set anyText },
   { long := "server-version", environment := some "WEBSSH_SERVER_VERSION", action := .set anyText },
   { long := "keepalive", environment := some "WEBSSH_KEEPALIVE",
     action := .set (readable seconds? .valueValidation) },
   { long := "env-passthrough", environment := some "WEBSSH_ENV_PASSTHROUGH", action := .raise },
   { long := "host-key-seed", environment := some "WEBSSH_HOST_KEY_SEED", action := .set anyText },
   { long := "work-dir", environment := some "WEBSSH_WORK_DIR", action := .set path },
   { long := "sweep-interval", environment := some "WEBSSH_SWEEP_INTERVAL",
     action := .set (readable seconds? .valueValidation) },
   { long := "max-idle", environment := some "WEBSSH_MAX_IDLE",
     action := .set (readable seconds? .valueValidation) },
   { long := "ws-listen", environment := some "WEBSSH_WS_LISTEN", action := .set anyText },
   { long := "banner", environment := some "WEBSSH_BANNER", action := .set anyText },
   { long := "user", letter := some 'u', action := .append anyText },
   { long := "authorized-keys", environment := some "WEBSSH_AUTHORIZED_KEYS", action := .set path },
   { long := "verbose", letter := some 'v', action := .count },
   { long := "log-format", environment := some "WEBSSH_LOG_FORMAT",
     action := .set (readable LogFormat.named? .invalidValue) },
   { long := "help", letter := some 'h', action := .help },
   { long := "version", letter := some 'V', action := .version }]

/-- What the program is asked to do. -/
structure Invocation where
  config : Option String := none
  listenHost : Option String := none
  listenPort : Option UInt16 := none
  shell : Option String := none
  serverVersion : Option String := none
  keepalive : Option UInt64 := none
  envPassthrough : Bool := false
  hostKeySeed : Option String := none
  workDir : Option String := none
  sweepInterval : Option UInt64 := none
  maxIdle : Option UInt64 := none
  webListen : Option String := none
  banner : Option String := none
  users : List String := []
  authorizedKeys : Option String := none
  verbosity : Nat := 0
  logFormat : LogFormat := .text
  deriving DecidableEq, Repr

namespace Invocation

/-- The invocation that occurrences of switches make. -/
def ofGiven (given : List (String × String)) : Invocation :=
  let value (long : String) : Option String := (valuesOf given long).head?
  { config := value "config"
    listenHost := value "listen-host"
    listenPort := value "listen-port" >>= port?
    shell := value "shell"
    serverVersion := value "server-version"
    keepalive := value "keepalive" >>= seconds?
    envPassthrough := (value "env-passthrough").isSome
    hostKeySeed := value "host-key-seed"
    workDir := value "work-dir"
    sweepInterval := value "sweep-interval" >>= seconds?
    maxIdle := value "max-idle" >>= seconds?
    webListen := value "ws-listen"
    banner := value "banner"
    users := valuesOf given "user"
    authorizedKeys := value "authorized-keys"
    verbosity := min 255 (valuesOf given "verbose").length
    logFormat := ((value "log-format" >>= LogFormat.named?).getD .text) }

/-- Reads a command line and the environment. -/
def parse (words : List String) (lookup : String → Option String) : Except Usage Invocation := do
  let given ← read switches words lookup
  return ofGiven given

/-- Why the program does not start. -/
inductive Fault where
  | readingConfig (path : String)
  | parsingConfig (path : String)
  | badUser (why : UserSpec.Fault)
  | readingKeys (path : String)
  | bindingWeb (address : String)
  | buildingDaemon
  | daemonStopped
  deriving DecidableEq, Repr

/-- The wording of a fault. -/
def Fault.message : Fault → String
  | readingConfig path => "reading config " ++ path
  | parsingConfig path => "parsing config " ++ path
  | badUser why => why.message
  | readingKeys path => "reading authorized keys " ++ path
  | bindingWeb address => "binding websocket endpoint " ++ address
  | buildingDaemon => "building SSH daemon"
  | daemonStopped => "SSH daemon stopped"

/-- The settings in the configuration file; defaults when there is none. -/
def fileSettings (i : Invocation) (files : String → Option Bytes) : Except Fault Settings :=
  match i.config with
  | none => .ok {}
  | some path =>
    match files path >>= Bytes.text? with
    | none => .error (.readingConfig path)
    | some text =>
      match Settings.ofText? text with
      | some settings => .ok settings
      | none => .error (.parsingConfig path)

/-- The settings after the switches have had their say. -/
def override (i : Invocation) (s : Settings) : Settings where
  listenHost := i.listenHost.getD s.listenHost
  listenPort := i.listenPort.getD s.listenPort
  shell := i.shell.getD s.shell
  serverVersion := i.serverVersion.getD s.serverVersion
  keepaliveSeconds := i.keepalive.getD s.keepaliveSeconds
  envPassthrough := i.envPassthrough || s.envPassthrough
  hostKeySeed := i.hostKeySeed.getD s.hostKeySeed
  workDir := i.workDir <|> s.workDir
  sweepSeconds := i.sweepInterval.getD s.sweepSeconds
  maxIdleSeconds := i.maxIdle.getD s.maxIdleSeconds
  webListen := i.webListen <|> s.webListen
  banner := i.banner <|> s.banner

/-- The settings to run with. -/
def settings (i : Invocation) (files : String → Option Bytes) : Except Fault Settings :=
  (i.fileSettings files).map i.override

/-- The users given by switches. -/
def userAccounts (i : Invocation) : Except Fault Auth.Accounts :=
  i.users.foldlM (fun accounts spec =>
    match UserSpec.parse spec with
    | .ok record => .ok (accounts.withRecord record)
    | .error why => .error (.badUser why)) Auth.Accounts.none

/-- The accounts to run with. -/
def accounts (i : Invocation) (files : String → Option Bytes) : Except Fault Auth.Accounts := do
  let accounts ← i.userAccounts
  match i.authorizedKeys with
  | none => .ok accounts
  | some path =>
    match files path >>= Bytes.text? with
    | none => .error (.readingKeys path)
    | some content => .ok (accounts.withAuthorizedKeys content)

/-- The events to log, unless the environment says otherwise. -/
def logFilter (i : Invocation) : String :=
  match i.verbosity with
  | 0 => "webssh=info,warn"
  | 1 => "webssh=debug,info"
  | _ => "trace"

end Invocation

end ShellGateway.CommandLine
