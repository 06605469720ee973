import ShellGateway.Net.Address
import ShellGateway.Window

/-!
# Failures

Everything that can go wrong in the gateway and the daemon. A failure is a
cause; `Failure.message` is its only wording, `Failure.kind` the class that web
clients see, and `Failure.isTransport` says whether the remote connection is
unusable from then on, in which case the session it belonged to is given up.
-/

namespace ShellGateway

/-- Why a login was denied. Only the daemon's own records tell these apart:
the client learns no more than that it was denied. -/
inductive Denial where
  | badCredential
  | disabled
  | expired
  deriving DecidableEq, Repr

/-- The wording of a denial. -/
def Denial.message : Denial → String
  | .badCredential => "bad credential"
  | .disabled => "account disabled"
  | .expired => "account expired"

/-- A cause of failure. -/
inductive Failure where
  /-- Dialling, the handshake or the link to a remote host failed. -/
  | transport (detail : String)
  /-- A login was refused. -/
  | login (why : Denial)
  /-- A request was malformed or not supported. -/
  | protocol (detail : String)
  /-- A program could not be started. -/
  | process (detail : String)
  /-- No live session has the given id. -/
  | sessionNotFound (id : String)
  /-- A window outside the admissible sizes. -/
  | invalidWindow (window : Window)
  /-- A file operation failed. -/
  | sftp (detail : String)
  /-- The address of a client is not on the list. -/
  | notAdmitted (ip : Net.IpAddress)
  /-- A session is not in a state for the request. -/
  | session (detail : String)
  /-- Reading or writing a local stream or file failed. -/
  | io (detail : String)
  /-- The secure connection broke. -/
  | link (detail : String)
  /-- A key could not be made or converted. -/
  | key (detail : String)
  /-- A key could not be read. -/
  | keyLoad (detail : String)
  /-- The configuration is incomplete or contradictory. -/
  | configuration (detail : String)
  /-- A text is not a socket address. -/
  | badAddress
  deriving DecidableEq, Repr

namespace Failure

/-- The classes of failure that web clients tell apart. -/
inductive Kind where
  | transport
  | auth
  | protocol
  | process
  | sessionNotFound
  | invalidWindow
  | sftp
  | admission
  | internal
  deriving DecidableEq, Repr

/-- The name of a class on the wire. -/
def Kind.name : Kind → String
  | .transport => "transport"
  | .auth => "auth"
  | .protocol => "protocol"
  | .process => "process"
  | .sessionNotFound => "session_not_found"
  | .invalidWindow => "invalid_window"
  | .sftp => "sftp"
  | .admission => "admission"
  | .internal => "internal"

/-- The class of a failure. Whatever a web client cannot act on is internal. -/
def kind : Failure → Kind
  | transport _ | link _ => .transport
  | login _ => .auth
  | protocol _ => .protocol
  | process _ => .process
  | sessionNotFound _ => .sessionNotFound
  | invalidWindow _ => .invalidWindow
  | sftp _ => .sftp
  | notAdmitted _ => .admission
  | session _ | io _ | key _ | keyLoad _ | configuration _ | badAddress => .internal

/-- The wording of a failure. -/
def message : Failure → String
  | transport detail => "transport error: " ++ detail
  | login why => "authentication failed: " ++ why.message
  | protocol detail => "protocol error: " ++ detail
  | process detail => "process error: " ++ detail
  | sessionNotFound id => "session not found: " ++ id
  | invalidWindow w => "invalid window size " ++ w.toText
  | sftp detail => "sftp error: " ++ detail
  | notAdmitted ip => "address not admitted: " ++ toString ip
  | session detail => "session error: " ++ detail
  | io detail => "io error: " ++ detail
  | link detail => "russh error: " ++ detail
  | key detail => "key error: " ++ detail
  | keyLoad detail => "key loading error: " ++ detail
  | configuration detail => "configuration error: " ++ detail
  | badAddress => "address parse error: invalid socket address syntax"

/-- Whether the remote connection is unusable from now on. -/
def isTransport : Failure → Bool
  | transport _ | link _ => true
  | _ => false

end Failure

/-- Results can be compared when their values and their errors can. -/
instance exceptDecidableEq {ε α : Type} [DecidableEq ε] [DecidableEq α] :
    DecidableEq (Except ε α)
  | .ok a, .ok b =>
    if h : a = b then .isTrue (congrArg Except.ok h) else .isFalse fun k => h (Except.ok.inj k)
  | .error a, .error b =>
    if h : a = b then .isTrue (congrArg Except.error h)
    else .isFalse fun k => h (Except.error.inj k)
  | .ok _, .error _ => .isFalse nofun
  | .error _, .ok _ => .isFalse nofun

/-- The window of the given size, if a web client may ask for it. -/
def Window.checked (width height : Nat) : Except Failure Window :=
  let w : Window := ⟨width, height⟩
  if w.Admissible then .ok w else .error (.invalidWindow w)

end ShellGateway
