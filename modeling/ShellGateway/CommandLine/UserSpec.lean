import ShellGateway.Auth.Record
import ShellGateway.Text.Blank
import ShellGateway.Text.Quoted

/-!
# Users on the command line

A user is given as `name:secret` or as `name:secret:expiry`, the expiry in
RFC 3339. The first two colons separate; the expiry may hold more of them. The
secret may be empty and the name may not.
-/

namespace ShellGateway.CommandLine

/-- Why a text names no user. -/
inductive UserSpec.Fault where
  | missingSecret (name : String)
  | emptyName (spec : String)
  | badExpiry (name expiry : String)
  deriving DecidableEq, Repr

namespace UserSpec

/-- The wording of a fault. -/
def Fault.message : Fault → String
  | missingSecret name =>
    "user " ++ Text.quoted name ++ " is missing a secret (expected name:secret)"
  | emptyName spec => "user spec " ++ Text.quoted spec ++ " has an empty name"
  | badExpiry name expiry =>
    "user " ++ Text.quoted name ++ " has an invalid expiry " ++ Text.quoted expiry

/-- The user that a text names. -/
def parse (spec : String) : Except Fault Auth.Record :=
  let (name, rest?) := Text.cut ':' spec.toList
  let name := String.ofList name
  match rest? with
  | none => .error (.missingSecret name)
  | some rest =>
    if name.isEmpty then .error (.emptyName spec)
    else
      let (secret, expiry?) := Text.cut ':' rest
      let record := Auth.Record.ofPassword name (String.ofList secret)
      match expiry? with
      | none => .ok record
      | some expiry =>
        let expiry := String.ofList expiry
        match Instant.parse? expiry with
        | some at' => .ok { record with expiresAt := some at' }
        | none => .error (.badExpiry name expiry)

end UserSpec

end ShellGateway.CommandLine
