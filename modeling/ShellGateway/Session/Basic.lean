import ShellGateway.Dictionary
import ShellGateway.Net.Target
import ShellGateway.Session.Login
import ShellGateway.Time.Duration
import ShellGateway.Time.Instant

/-!
# Sessions

A session is one authenticated connection to a remote host, held on behalf of a
web client. It owns up to three handles: the transport, a file transfer channel
when the remote host offers one, and a shell channel that waits for a terminal
to take it. Closing a session releases each handle it still owns; the record of
releases keeps every attempt, so that it can be told what was released and how
often.

Time is counted in microseconds from when the gateway started. A session is
idle for as long as nothing has touched it. What it was last active for and how
long it counts as idle are kept apart, so that idleness can be brought about
without waiting for it.
-/

namespace ShellGateway

/-- A point on the gateway's clock, in microseconds from its start. -/
abbrev Moment := Int

/-- The microseconds of a duration. -/
def Duration.micros (d : Duration) : Nat := d.millis * 1000

namespace Session

/-- Names one session object for good. Ids are given out again; serials are
not. -/
abbrev Serial := Nat

/-- Names one control queue for good. -/
abbrev QueueId := Nat

/-- What a session is for, fixed when it is made. -/
structure Info where
  id : String
  target : Net.Target
  login : Login
  term : String
  clientIp : Net.IpAddress
  /-- The remote host offers file transfer. -/
  hasTransfer : Bool
  deriving DecidableEq, Repr

/-- What a session owns and releases when it is closed. -/
inductive Handle where
  | transfer
  | shell
  | transport
  deriving DecidableEq, Repr

/-- An attempt to release a handle, and whether it failed. -/
structure Release where
  handle : Handle
  failed : Bool
  deriving DecidableEq, Repr

end Session

open Session in
/-- A session: what it is for, when it was made and last active, and what has
become of its handles. -/
structure Session where
  info : Info
  startedAt : Moment
  lastActive : Moment
  /-- Since when the session counts as idle. -/
  idleSince : Moment
  closed : Bool := false
  /-- The shell channel is here and no terminal has taken it. -/
  shellHere : Bool := false
  /-- The control queue of the terminal that drives the shell. -/
  control : Option QueueId := none
  /-- Attempts to release handles, the latest first. -/
  releases : List Release := []
  deriving DecidableEq, Repr

namespace Session

/-- How long a session has been idle at a given time. -/
def idle (s : Session) (now : Moment) : Int :=
  now - s.idleSince

/-- Whether a session has been idle for longer than allowed. -/
def isStale (s : Session) (now : Moment) (maxIdle : Nat) : Bool :=
  (maxIdle : Int) < s.idle now

/-- The session after activity. -/
def touched (s : Session) (now : Moment) : Session :=
  { s with lastActive := now, idleSince := now }

/-- The session, idle for longer by the given time. -/
def backdated (s : Session) (time : Nat) : Session :=
  { s with idleSince := s.idleSince - time }

/-- How often a handle was released. -/
def releaseCount (s : Session) (h : Handle) : Nat :=
  s.releases.countP (·.handle = h)

/-- Whether the connection to the remote host has been given up. -/
def transportClosed (s : Session) : Bool :=
  0 < s.releaseCount .transport

/-- Whether a terminal drives the shell. -/
def shellAttached (s : Session) : Bool :=
  s.control.isSome

/-- A session as it is made: open and active at that moment. -/
def make (info : Info) (shellHere : Bool) (now : Moment) : Session where
  info := info
  startedAt := now
  lastActive := now
  idleSince := now
  shellHere := shellHere

/-! ## What is shown -/

/-- What web clients see of a session. -/
structure View where
  id : String
  host : String
  port : UInt16
  family : Net.Family
  username : String
  term : String
  clientIp : Net.IpAddress
  startedAt : Moment
  lastActive : Moment
  hasTransfer : Bool
  shellAttached : Bool
  deriving DecidableEq, Repr

/-- What web clients see of a session. -/
def view (s : Session) : View where
  id := s.info.id
  host := s.info.target.host
  port := s.info.target.port
  family := s.info.target.family
  username := s.info.login.username
  term := s.info.term
  clientIp := s.info.clientIp
  startedAt := s.startedAt
  lastActive := s.lastActive
  hasTransfer := s.info.hasTransfer
  shellAttached := s.shellAttached

/-- The instant of a moment, for a gateway that started at `boot`. -/
def instantOf (boot : Instant) (m : Moment) : Instant :=
  let nanos : Int := boot.nano + m * 1000
  ⟨boot.second + nanos / 1000000000, (nanos % 1000000000).toNat⟩

/-- The record that web clients are sent. -/
def View.toJson (boot : Instant) (v : View) : Json.Value :=
  let named (name : String) (value : Json.Value) := (some name.toList, value)
  let instant (m : Moment) : Json.Value := .text (instantOf boot m).toText
  .object
    [named "session_id" (.text v.id), named "host" (.text v.host),
     named "port" (.nat v.port.toNat), named "family" v.family.toJson,
     named "username" (.text v.username), named "term" (.text v.term),
     named "client_ip" (.text (toString v.clientIp)),
     named "started_at" (instant v.startedAt), named "last_active_at" (instant v.lastActive),
     named "sftp_available" (.bool v.hasTransfer),
     named "shell_attached" (.bool v.shellAttached)]

/-- What operators see of a session. -/
def outline (s : Session) : Text.Outline :=
  .record "BridgeSession"
    [("id", .call "SessionId" (.text s.info.id)), ("target", s.info.target.outline),
     ("username", .text s.info.login.username), ("client_ip", .word (toString s.info.clientIp)),
     ("closed", .bool s.closed)] true

/-- The description of a session. -/
def describe (s : Session) : String := s.outline.toText

end Session

end ShellGateway
