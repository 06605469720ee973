import ShellGateway.Auth.AuthorizedKeys
import ShellGateway.Auth.Record
import ShellGateway.Dictionary

/-!
# Accounts

The users and keys that the daemon accepts. Records are kept by user name and
keys by their bytes; a later entry replaces an earlier one. Keys do not belong
to users: whoever holds an authorised key may log in under any name.
-/

namespace ShellGateway.Auth

/-- Users by name, and authorised keys with their comments by key bytes. -/
structure Accounts where
  users : Dictionary String Record := .empty
  keys : Dictionary Bytes String := .empty
  deriving Repr

namespace Accounts

/-- No users and no keys. -/
def none : Accounts := {}

/-- Adds a user. -/
def withRecord (a : Accounts) (r : Record) : Accounts :=
  { a with users := a.users.insert r.username r }

/-- Adds an enabled user with a password. -/
def withUser (a : Accounts) (username secret : String) : Accounts :=
  a.withRecord (.ofPassword username secret)

/-- Adds a key. -/
def withKey (a : Accounts) (key : Bytes) (comment : String) : Accounts :=
  { a with keys := a.keys.insert key comment }

/-- Adds every key of a list. A key without a comment gets an empty one. -/
def withAuthorizedKeys (a : Accounts) (content : String) : Accounts :=
  (AuthorizedKey.ofText content.toList).foldl
    (fun a k => a.withKey k.bytes (String.ofList (k.comment.getD []))) a

/-- Looks a user up and compares the secret. Of an unknown user nothing is
known. -/
def lookup (a : Accounts) (username secret : String) (now : Instant) : Lookup :=
  match a.users.get? username with
  | some record => record.lookup secret now
  | .none => ({} : Lookup)

/-- Decides a password login. -/
def decidePassword (a : Accounts) (username secret : String) (now : Instant) :
    Except Denial String :=
  (a.lookup username secret now).verdict username

/-- Decides a login with a key whose signature has been checked. -/
def acceptsKey (a : Accounts) (key : Bytes) : Bool :=
  a.keys.contains key

end Accounts

end ShellGateway.Auth
