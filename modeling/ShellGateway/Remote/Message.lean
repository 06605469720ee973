import ShellGateway.Text.Bytes

/-!
# Messages of a remote host

What arrives on a channel to a remote host. Output comes in two kinds, plain
and extended; extended output is numbered, and the number says what it is meant
for. Everything that the gateway has no use for is one kind, `other`.
-/

namespace ShellGateway.Remote

/-- A message on a channel. -/
inductive Message where
  | data (bytes : Bytes)
  | extendedData (code : Nat) (bytes : Bytes)
  | success
  | failure
  | exitStatus (status : Nat)
  | eof
  | close
  | other
  deriving DecidableEq, Repr

/-- The output that a message carries. -/
def Message.payload? : Message → Option Bytes
  | data bytes => some bytes
  | extendedData _ bytes => some bytes
  | success | failure | exitStatus _ | eof | close | other => none

end ShellGateway.Remote
