import ShellGateway.Json.Reader
import ShellGateway.Net.Target
import ShellGateway.Time.Duration

/-!
# Settings

What can be set in a configuration file: where the daemon listens, which shell
it starts, how long sessions may idle. Every field has a default, so an empty
object is a complete file. The file is JSON; `Settings.ofJson?` takes an object
or an array of the first fields, refuses a field given twice, and leaves
unknown fields alone.
-/

namespace ShellGateway

/-- Settings of the daemon and of the sessions' registry. -/
structure Settings where
  /-- The host that the daemon listens on. -/
  listenHost : String := "0.0.0.0"
  /-- The port that the daemon listens on. -/
  listenPort : UInt16 := 2222
  /-- The program started for shells and commands. -/
  shell : String := "/bin/sh"
  /-- The daemon's identification line. -/
  serverVersion : String := "SSH-2.0-WebSSH"
  /-- Seconds of silence before a client is asked for a sign of life; zero for
  never. -/
  keepaliveSeconds : UInt64 := 0
  /-- Whether clients may set variables for the programs they start. -/
  envPassthrough : Bool := false
  /-- The seed of the daemon's host key; empty for a random key. -/
  hostKeySeed : String := ""
  /-- The directory that programs start in and that file transfers see. -/
  workDir : Option String := none
  /-- Seconds between two sweeps of the registry. -/
  sweepSeconds : UInt64 := 15
  /-- Seconds without activity after which a session is given up. -/
  maxIdleSeconds : UInt64 := 60
  /-- Where the web endpoint listens, if there is one. -/
  webListen : Option String := none
  /-- A greeting shown before login. -/
  banner : Option String := none
  deriving DecidableEq, Repr

namespace Settings

/-- The names of the fields in a file, in order. -/
def fieldNames : List String :=
  ["listen_host", "listen_port", "shell", "server_version", "keepalive_interval_secs",
    "env_passthrough", "host_key_seed", "work_dir", "sweep_interval_secs", "max_idle_secs",
    "ws_listen", "banner"]

open Json in
/-- The settings that a JSON value holds. -/
def ofJson? (v : Value) : Option Settings := do
  let d : Settings := {}
  match ← v.fields? (fieldNames.map String.toList) with
  | [listenHost, listenPort, shell, serverVersion, keepalive, envPassthrough, hostKeySeed,
      workDir, sweep, maxIdle, webListen, banner] =>
    return {
      listenHost := ← optionalField d.listenHost Value.asText? listenHost
      listenPort := UInt16.ofNat
        (← optionalField d.listenPort.toNat (Value.asNat? UInt16.size) listenPort)
      shell := ← optionalField d.shell Value.asText? shell
      serverVersion := ← optionalField d.serverVersion Value.asText? serverVersion
      keepaliveSeconds := UInt64.ofNat
        (← optionalField d.keepaliveSeconds.toNat (Value.asNat? UInt64.size) keepalive)
      envPassthrough := ← optionalField d.envPassthrough Value.asBool? envPassthrough
      hostKeySeed := ← optionalField d.hostKeySeed Value.asText? hostKeySeed
      workDir := ← optionalField d.workDir (Value.orNull? Value.asText?) workDir
      sweepSeconds := UInt64.ofNat
        (← optionalField d.sweepSeconds.toNat (Value.asNat? UInt64.size) sweep)
      maxIdleSeconds := UInt64.ofNat
        (← optionalField d.maxIdleSeconds.toNat (Value.asNat? UInt64.size) maxIdle)
      webListen := ← optionalField d.webListen (Value.orNull? Value.asText?) webListen
      banner := ← optionalField d.banner (Value.orNull? Value.asText?) banner }
  | _ => none

/-- The settings that a configuration file holds. -/
def ofText? (text : String) : Option Settings :=
  Json.parse? text >>= ofJson?

/-- Host and port of the daemon. -/
def listenAddress (s : Settings) : String :=
  s.listenHost ++ ":" ++ Digit.decimal s.listenPort.toNat

/-- Silence before a client is asked for a sign of life. -/
def keepalive (s : Settings) : Option Duration :=
  if s.keepaliveSeconds = 0 then none else some (.ofSeconds s.keepaliveSeconds.toNat)

/-- Time between two sweeps of the registry. -/
def sweepInterval (s : Settings) : Duration := .ofSeconds s.sweepSeconds.toNat

/-- Idle time that a session is allowed. -/
def maxIdle (s : Settings) : Duration := .ofSeconds s.maxIdleSeconds.toNat

end Settings

end ShellGateway
