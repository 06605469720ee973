import ShellGateway.Daemon.Channel

/-!
# Serving a connection

A connection's requests are answered one at a time, in the order in which they
arrive. While a request waits for room in a shell's queue of windows, none of the
connection's channels gets any further; only the shells themselves go on, each at
its own pace, and make room.

`Service.step` is one such event, and `Service.run` any number of them. What the
client is sent is kept along with the channel it is sent on.
-/

namespace ShellGateway.Daemon

/-- What happens on a connection. -/
inductive Occurrence where
  /-- A request arrives on a channel; `attached` is what comes of starting its
  shell, should it come to that. -/
  | request (id : ChannelId) (r : Request) (attached : Except Failure Unit)
  /-- The shell of a channel takes the next window from its queue. -/
  | resize (id : ChannelId)
  /-- The shell of a channel takes no more windows. -/
  | stop (id : ChannelId)
  deriving DecidableEq

/-- A request that was answered: its channel, what was sent, and what was
started. -/
structure Answered where
  id : ChannelId
  request : Request
  replies : List Reply
  launch : Option Launch
  deriving DecidableEq, Repr

/-- A connection and the requests on it that have been answered, in order. -/
structure Service where
  connection : Connection := {}
  answered : List Answered := []
  deriving Repr

namespace Connection

/-- Whether a request waits for room in a shell's queue. -/
def isWaiting (c : Connection) : Bool :=
  c.channels.entries.any fun (_, channel) => (channel.shell.bind (·.blocked)).isSome

/-- Changes the shell of a channel, if it has one. -/
def changeShell (c : Connection) (id : ChannelId) (f : Shell → Shell) : Connection :=
  match c.channels.get? id with
  | some channel =>
    match channel.shell with
    | some shell => c.put id { channel with shell := some (f shell) }
    | none => c
  | none => c

end Connection

namespace Service

/-- One event. No request is answered while another waits. -/
def step (o : ChannelOptions) (s : Service) : Occurrence → Option Service
  | .request id r attached =>
    if s.connection.isWaiting then none
    else
      let a := s.connection.handle o (fun _ _ => attached) id r
      some
        { connection := a.connection
          answered := s.answered ++ [⟨id, r, a.replies, a.launch⟩] }
  | .resize id => some { s with connection := s.connection.changeShell id .consume }
  | .stop id => some { s with connection := s.connection.changeShell id .stop }

/-- The service after events, if they can happen in this order. -/
def run (o : ChannelOptions) (s : Service) : List Occurrence → Option Service
  | [] => some s
  | e :: rest => s.step o e >>= fun s => s.run o rest

theorem run_append (o : ChannelOptions) (s : Service) (a b : List Occurrence) :
    s.run o (a ++ b) = s.run o a >>= fun t => t.run o b := by
  induction a generalizing s with
  | nil => rfl
  | cons e rest ih =>
    simp only [List.cons_append, run]
    cases s.step o e with
    | none => rfl
    | some t => exact ih t

end Service

end ShellGateway.Daemon
