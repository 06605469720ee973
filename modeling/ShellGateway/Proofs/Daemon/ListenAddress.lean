import ShellGateway.Daemon.Options
import ShellGateway.Proofs.Net.Addresses

/-!
# Where the daemon listens

The settings give the host and the port apart, and the daemon listens at the one text that a colon
makes of them. Of an IPv4 address and a port, that is a socket address. In the text of an IPv6
address the colon is one more among others: such a text is refused, and the same host in brackets
is the socket address that was meant (`listen_hosts`).
-/

namespace ShellGateway.Daemon

open Net (IpAddress IPv4 IPv6 SocketAddress)

/-- Where a daemon listens, whose settings name the given host and port. -/
def listensAt (settings : Settings) (host : String) (port : UInt16) (key : HostKey.PublicKey) :
    Except Failure SocketAddress :=
  let named := { settings with listenHost := host, listenPort := port }
  (Server.mk (.ofSettings named) key).listenAddress

section

variable (settings : Settings) (host : String) (port : UInt16) (key : HostKey.PublicKey)

theorem listensAt_eq :
    listensAt settings host port key =
      match SocketAddress.parse? (host ++ ":" ++ Digit.decimal port.toNat) with
      | some address => .ok address
      | none => .error .badAddress :=
  rfl

/-- The daemon listens at the socket address that the host and the port write. -/
theorem listensAt_of_text {address : SocketAddress}
    (text : host.toList ++ ':' :: Digit.write 10 port.toNat = address.toText) :
    listensAt settings host port key = .ok address := by
  have same : host ++ ":" ++ Digit.decimal port.toNat = toString address := by
    show _ = String.ofList address.toText
    rw [← text, ← String.toList_inj]
    simp [Digit.decimal]
  rw [listensAt_eq, same, SocketAddress.parse?_toString]

/-- **The host is an IPv4 address, or an IPv6 address in brackets.** An IPv6 address as it is
written by itself is refused at every port. -/
theorem listen_hosts :
    (∀ ip : IPv4, listensAt settings (toString (IpAddress.v4 ip)) port key = .ok (.v4 ip port)) ∧
    ∀ ip : IPv6,
      listensAt settings (toString (IpAddress.v6 ip)) port key = .error .badAddress ∧
      listensAt settings ("[" ++ toString (IpAddress.v6 ip) ++ "]") port key =
        .ok (.v6 ip 0 port) := by
  have printed (ip : IpAddress) : (toString ip).toList = ip.toText := String.toList_ofList
  refine ⟨fun ip => ?_, fun ip => ⟨?_, ?_⟩⟩
  · exact listensAt_of_text settings _ port key (by rw [printed]; rfl)
  · rw [listensAt_eq, String.append_assoc, SocketAddress.parse?_bare]
  · refine listensAt_of_text settings _ port key ?_
    rw [String.toList_append, String.toList_append, printed]
    simp [SocketAddress.toText, IpAddress.toText]

end

/-- The loopback address of IPv6 is refused. -/
theorem loopback_refused :
    toString (IpAddress.v6 (.ofList [0, 0, 0, 0, 0, 0, 0, 1])) = "::1" ∧
    listensAt {} "::1" 2222 ⟨"ssh-ed25519", []⟩ = .error .badAddress ∧
    listensAt {} "::1" 2222 ⟨"ssh-ed25519", []⟩ ≠
      .ok ((IpAddress.v6 (.ofList [0, 0, 0, 0, 0, 0, 0, 1])).withPort 2222) := by
  have refused : listensAt {} "::1" 2222 ⟨"ssh-ed25519", []⟩ = .error .badAddress := by rfl
  refine ⟨by decide, refused, ?_⟩
  rw [refused]
  exact nofun

end ShellGateway.Daemon
