import ShellGateway.Text.Description

/-!
# Logins at remote hosts

What a session logs in with: a user name and a secret. A secret is held only to
be sent; its description says what kind it is and never what it holds.
-/

namespace ShellGateway

/-- What proves a user's identity to a remote host: a password, or the text of
a private key with the passphrase that it may be sealed with. -/
inductive Secret where
  | password (text : String)
  | privateKey (pem : String) (passphrase : Option String)
  deriving DecidableEq, Repr

namespace Secret

/-- The passphrase to open a private key with; an empty one is none. -/
def passphrase? : Secret → Option String
  | password _ => none
  | privateKey _ passphrase => passphrase.filter fun p => !p.isEmpty

/-- The kind of the secret. -/
def outline : Secret → Text.Outline
  | password _ => .word ("Password(" ++ Text.redacted ++ ")")
  | privateKey _ passphrase =>
    .record "PrivateKey"
      [("pem", .text Text.redacted),
       ("passphrase", .option (passphrase.map fun _ => .text Text.redacted))]
      false

/-- The description of a secret. -/
def describe (s : Secret) : String := s.outline.toText

end Secret

/-- A user name and the secret that goes with it. -/
structure Login where
  username : String
  secret : Secret
  deriving DecidableEq, Repr

/-- The login without its secret. -/
def Login.outline (l : Login) : Text.Outline :=
  .record "Credentials" [("username", .text l.username), ("secret", l.secret.outline)] false

/-- The description of a login. -/
def Login.describe (l : Login) : String := l.outline.toText

end ShellGateway
