import ShellGateway.Daemon.Channel

/-!
# Logging in

A client may try to log in as often as it likes, with passwords and with keys, and
under any name. Every attempt gets a reply. A reply that rejects can tell the client
which methods to go on with; the daemon's never does, and there is one rejection for
all reasons.

`Connection.login` answers one attempt, and `Connection.logins` any number of them, each
at its time.
-/

namespace ShellGateway.Daemon

/-- A way to log in, as clients are told of. -/
inductive LoginMethod where
  | password
  | publicKey
  | hostBased
  | keyboardInteractive
  deriving DecidableEq, Repr

/-- An attempt to log in. Who comes with a key has shown by a signature that he holds
it. -/
inductive LoginAttempt where
  | password (username secret : String)
  | key (username : String) (bytes : Bytes)
  deriving DecidableEq, Repr

/-- The name that an attempt is made under. -/
def LoginAttempt.username : LoginAttempt → String
  | password username _ => username
  | key username _ => username

/-- What a client hears of an attempt. -/
inductive LoginReply where
  | accept
  | reject (goOnWith : Option (List LoginMethod))
  deriving DecidableEq, Repr

/-- The reply to an attempt that was accepted or not. -/
def LoginReply.ofAccepted : Bool → LoginReply
  | true => accept
  | false => reject none

namespace Connection

/-- Answers an attempt to log in. -/
def login (accounts : Auth.Accounts) (now : Instant) (c : Connection) (a : LoginAttempt) :
    Connection × LoginReply :=
  let (c, accepted) := match a with
    | .password username secret => c.loginWithPassword accounts now username secret
    | .key username bytes => c.loginWithKey accounts username bytes
  (c, .ofAccepted accepted)

/-- Answers attempts, one after the other. -/
def logins (accounts : Auth.Accounts) (c : Connection) :
    List (Instant × LoginAttempt) → Connection × List LoginReply
  | [] => (c, [])
  | (now, a) :: rest =>
    let (c, reply) := c.login accounts now a
    let (c, replies) := c.logins accounts rest
    (c, reply :: replies)

end Connection

end ShellGateway.Daemon
