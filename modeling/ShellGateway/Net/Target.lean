import ShellGateway.Failure
import ShellGateway.Json.Printer
import ShellGateway.Json.Reader
import ShellGateway.Net.HostName
import ShellGateway.Net.Numeric
import ShellGateway.Text.Description

/-!
# Targets

A target is the remote endpoint of a session: a host, a port, and the address
family to dial it by. Its written form puts hosts that hold a colon in
brackets, so that the port stays recognisable. Stored targets are JSON records
of host, port and family; the family may be left out.
-/

namespace ShellGateway.Net

/-- The families by which a remote host may be dialled. -/
inductive Family where
  | any
  | v4
  | v6
  deriving DecidableEq, Repr

namespace Family

/-- The name of a family in requests and stored targets. -/
def name : Family → String
  | any => "tcp"
  | v4 => "tcp4"
  | v6 => "tcp6"

/-- The family of exactly this name. -/
def named? (s : String) : Option Family :=
  [any, v4, v6].find? (·.name == s)

/-- The family that a request names; an empty name leaves the choice open. -/
def parse (s : String) : Except Failure Family :=
  if s.isEmpty then .ok any
  else
    match named? s with
    | some f => .ok f
    | none => .error (.configuration ("unknown address family: " ++ s))

/-- Whether an address belongs to the family. -/
def accepts : Family → IpAddress → Bool
  | any, _ => true
  | v4, .v4 _ => true
  | v6, .v6 _ => true
  | _, _ => false

/-- A stored family: its name, or an object that has the name as its only key
with nothing to say about it. -/
def ofJson? : Json.Value → Option Family
  | .string (some s) => named? (String.ofList s)
  | .object [(some s, .null)] => named? (String.ofList s)
  | _ => none

/-- The family to store. -/
def toJson (f : Family) : Json.Value := .text f.name

/-- The family as descriptions show it. -/
def outline : Family → Text.Outline
  | any => .word "Tcp"
  | v4 => .word "Tcp4"
  | v6 => .word "Tcp6"

end Family

/-- A remote endpoint. -/
structure Target where
  host : String
  port : UInt16
  family : Family := .any
  deriving DecidableEq, Repr

/-- Host and port as one text. -/
def Target.toText (t : Target) : String :=
  let host := if t.host.toList.contains ':' then "[" ++ t.host ++ "]" else t.host
  host ++ ":" ++ toString t.port.toNat

namespace Target

/-- The names of the fields of a stored target, in order. -/
def fieldNames : List String := ["host", "port", "family"]

open Json in
/-- The target that a JSON value holds. -/
def ofJson? (v : Value) : Option Target := do
  match ← v.fields? (fieldNames.map String.toList) with
  | [host, port, family] =>
    return {
      host := ← requiredField Value.asText? host
      port := UInt16.ofNat (← requiredField (Value.asNat? UInt16.size) port)
      family := ← optionalField Family.any Family.ofJson? family }
  | _ => none

/-- The target to store. -/
def toJson (t : Target) : Json.Value :=
  .object
    [(some "host".toList, .text t.host), (some "port".toList, .nat t.port.toNat),
     (some "family".toList, t.family.toJson)]

/-- The target that a stored text holds. -/
def ofStored? (text : String) : Option Target :=
  Json.parse? text >>= ofJson?

/-- The text to store. -/
def stored (t : Target) : String :=
  t.toJson.toText

/-- The target as descriptions show it. -/
def outline (t : Target) : Text.Outline :=
  .record "Target"
    [("host", .text t.host), ("port", .nat t.port.toNat), ("family", t.family.outline)] false

end Target

/-- The socket addresses that a text stands for on a machine that knows no
names but its own: an address and a port, or a host and a port. -/
def resolveLocally (text : String) : List SocketAddress :=
  match SocketAddress.parse? text with
  | some address => [address]
  | none =>
    match text.toList.reverse.span (· != ':') with
    | (portBack, ':' :: hostBack) =>
      match Digit.unsigned? UInt16.size portBack.reverse with
      | some n =>
        let port := UInt16.ofNat n
        let host := String.ofList hostBack.reverse
        match HostReading.of (fun _ => none) host with
        | .address ofPort => [ofPort port]
        | .unknownLink => []
        | .byName =>
          if HostName.same host "localhost" then [IpAddress.loopback.withPort port] else []
      | none => []
    | _ => []

end ShellGateway.Net
