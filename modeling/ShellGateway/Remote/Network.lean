import ShellGateway.Failure
import ShellGateway.Net.HostName
import ShellGateway.Net.Target
import ShellGateway.Session.Login

/-!
# Dialling remote hosts

`Network` is the gateway's view of the world outside: names, hosts that answer
at addresses, and what private keys hold. Opening a connection goes through the
steps of `connect` in this order, and the first that fails is the one that is
reported:

1. the host is looked up, and its addresses of the wanted family are dialled one
   after the other until one answers;
2. the secure connection is set up;
3. the login is presented: a password as it is, a private key after it has been
   opened with its passphrase;
4. a shell channel is opened.

Last, file transfer is asked for; a host without it is connected all the same.
-/

namespace ShellGateway.Remote

open Net (HostReading IpAddress SocketAddress Target)

/-- A remote host that has answered a dial. -/
structure Host where
  /-- Sets up the secure connection. -/
  handshake : Except String Unit
  /-- Whether a user may log in with a password. -/
  acceptsPassword : String → String → Except String Bool
  /-- Whether a user may log in with the key of the given bytes. -/
  acceptsKey : String → Bytes → Except String Bool
  opensShell : Except String Unit
  offersTransfer : Bool

/-- The world outside the gateway. -/
structure Network where
  /-- The addresses of a host that is given by name. -/
  lookup : String → Except String (List IpAddress)
  /-- The numbers of this machine's links, by their names. -/
  link : String → Option UInt32
  /-- Dials an address. -/
  dial : SocketAddress → Except String Host
  /-- The public half of the private key that a text holds, opened with a
  passphrase. -/
  openKey : String → Option String → Except String Bytes

namespace Network

/-- The fault of a look-up, with the reason. -/
def lookupFault (reason : String) : String :=
  "failed to lookup address information: " ++ reason

/-- The fault of a look-up of what is the name of no host. -/
def unknownName : String := lookupFault "Name or service not known"

/-- The fault of a look-up of a text that cannot be handed to the operating
system. -/
def unspeakableName : String := "file name contained an unexpected NUL byte"

/-- Whether dialling an address goes out over IPv4. -/
def overIPv4 : SocketAddress → Bool
  | .v4 _ _ => true
  | .v6 ip _ _ => ip.mapped?.isSome

/-- The network of a machine whose interfaces are all down. It knows no name but
its own, has no route to an IPv4 address, and no address of its own from which
to reach an IPv6 one. -/
def offline : Network where
  lookup name :=
    if Net.HostName.same name "localhost" then .ok [.loopback]
    else if Net.HostName.isWellFormed name.toList then
      .error (lookupFault "Temporary failure in name resolution")
    else .error unknownName
  link name := if name = "lo" then some 1 else none
  dial a :=
    .error (if overIPv4 a then "Network is unreachable (os error 101)"
      else "Cannot assign requested address (os error 99)")
  openKey _ _ := .error "Could not read key"

/-- The addresses of a host and a port. -/
def addresses (n : Network) (host : String) (port : UInt16) : Except String (List SocketAddress) :=
  if host.toList.contains '\x00' then .error unspeakableName
  else
    match HostReading.of n.link host with
    | .address ofPort => .ok [ofPort port]
    | .unknownLink => .error unknownName
    | .byName => (n.lookup host).map fun ips => ips.map (IpAddress.withPort port)

/-- Dials addresses until one answers. Otherwise the latest fault is reported,
or `fault` when there was none. -/
def dialFirst (n : Network) (fault : String) : List SocketAddress → Except String Host
  | [] => .error fault
  | a :: rest =>
    match n.dial a with
    | .ok host => .ok host
    | .error why => dialFirst n (toString a ++ ": " ++ why) rest

/-- The fault of a host without addresses of the wanted family. -/
def noAddress (t : Target) : String :=
  "no " ++ t.family.name ++ " address for " ++ t.host

/-- Dials a target. -/
def dialTarget (n : Network) (t : Target) : Except Failure Host :=
  match n.addresses t.host t.port with
  | .error why => .error (.transport ("resolve " ++ t.toText ++ ": " ++ why))
  | .ok found =>
    let wanted := found.filter fun a => t.family.accepts a.ip
    match n.dialFirst (noAddress t) wanted with
    | .ok host => .ok host
    | .error why => .error (.transport ("dial " ++ t.toText ++ ": " ++ why))

/-- A fault of the secure connection as a failure. -/
def onLink {α : Type} : Except String α → Except Failure α
  | .ok a => .ok a
  | .error why => .error (.link why)

/-- Presents a login. -/
def present (n : Network) (host : Host) (l : Login) : Except Failure Unit := do
  let accepted ←
    match l.secret with
    | .password text => onLink (host.acceptsPassword l.username text)
    | .privateKey pem _ =>
      match n.openKey pem l.secret.passphrase? with
      | .error why => .error (.keyLoad why)
      | .ok key => onLink (host.acceptsKey l.username key)
  if accepted then .ok () else .error (.login .badCredential)

/-- Opens a connection with a shell channel. The answer is whether the host
offers file transfer. -/
def connect (n : Network) (t : Target) (l : Login) : Except Failure Bool := do
  let host ← n.dialTarget t
  match host.handshake with
  | .error why => .error (.transport ("handshake with " ++ t.toText ++ ": " ++ why))
  | .ok () =>
    n.present host l
    onLink host.opensShell
    return host.offersTransfer

end Network

end ShellGateway.Remote
