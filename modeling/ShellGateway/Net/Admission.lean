import ShellGateway.Net.Address

/-!
# Admission

An admission rule decides whether the client at an address may open a session.
Where the rule comes from is not the gateway's business; it only asks
`Admission.admits`.
-/

namespace ShellGateway.Net

/-- Which addresses may open a session. -/
inductive Admission where
  /-- Every address. -/
  | everyone
  /-- No address. -/
  | nobody
  /-- The listed addresses and no other. -/
  | listed (addresses : List IpAddress)
  deriving DecidableEq, Repr

namespace Admission

/-- Whether an address may open a session. -/
def admits : Admission → IpAddress → Bool
  | everyone, _ => true
  | nobody, _ => false
  | listed addresses, ip => addresses.contains ip

/-- A rule that also admits `ip`. -/
def allowing (ip : IpAddress) : Admission → Admission
  | everyone => everyone
  | nobody => listed [ip]
  | listed addresses => if addresses.contains ip then listed addresses else listed (ip :: addresses)

end Admission

end ShellGateway.Net
