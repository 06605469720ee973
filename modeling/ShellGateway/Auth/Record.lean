import ShellGateway.Failure
import ShellGateway.Text.Bytes
import ShellGateway.Text.Description
import ShellGateway.Time.Instant

/-!
# User records and password decisions

A record says how a user may log in: a secret, whether the account is switched
on, and when it ends. `Lookup` is what comparing a secret with a record yields,
and `Lookup.verdict` decides from it. A wrong secret is reported before the
state of the account, so that a guesser learns nothing about accounts it cannot
unlock.
-/

namespace ShellGateway.Auth

/-- A user. Without a secret there is no password login; the identity is what a
successful login is reported as, the user's name when there is none. -/
structure Record where
  username : String
  secret : Option String
  enabled : Bool := true
  expiresAt : Option Instant := none
  identity : Option String := none
  deriving DecidableEq, Repr

/-- An enabled user with a password that never expires. -/
def Record.ofPassword (username secret : String) : Record :=
  { username, secret := some secret }

/-- The record without its secret and identity. -/
def Record.outline (r : Record) : Text.Outline :=
  .record "CredentialRecord"
    [("username", .text r.username),
     ("secret", .option (r.secret.map fun _ => .text Text.redacted)),
     ("enabled", .bool r.enabled),
     ("expires_at", .option (r.expiresAt.map fun t => .word t.toText))] true

/-- The description of a record. -/
def Record.describe (r : Record) : String := r.outline.toText

/-- Whether the account has ended by `now`. -/
def Record.isExpiredAt (r : Record) (now : Instant) : Bool :=
  match r.expiresAt with
  | some t => t.le now
  | none => false

/-- Compares two byte strings of equal length by collecting all differences, so
that the time taken does not tell where the first one is. -/
def sameBytes (a b : Bytes) : Bool :=
  a.length == b.length && (a.zip b).foldl (fun acc xy => acc ||| (xy.1 ^^^ xy.2)) 0 == 0

/-- What is known after a secret was compared with a record. -/
structure Lookup where
  identity : Option String := none
  ok : Bool := false
  expired : Bool := false
  disabled : Bool := false
  deriving DecidableEq, Repr

/-- The decision: an identity, or why not. -/
def Lookup.verdict (l : Lookup) (username : String) : Except Denial String :=
  if !l.ok then .error .badCredential
  else if l.disabled then .error .disabled
  else if l.expired then .error .expired
  else .ok (l.identity.getD username)

/-- Compares a secret with a record. -/
def Record.lookup (r : Record) (secret : String) (now : Instant) : Lookup where
  identity := some (r.identity.getD r.username)
  ok := r.secret.any fun stored => sameBytes (.ofText stored) (.ofText secret)
  expired := r.isExpiredAt now
  disabled := !r.enabled

end ShellGateway.Auth
