import ShellGateway.Net.Admission
import ShellGateway.Remote.Network
import ShellGateway.Session.Basic
import ShellGateway.Session.Control

/-!
# The hub

What all calls share: the registry, which maps ids to sessions; the sessions
themselves, which outlive their registration for as long as a call holds on to
them; and the control queues with the answers that are handed back through them.

Every function here is one indivisible step. What a call does in several steps,
with other calls in between, is put together from these in the module on calls.
-/

namespace ShellGateway

open Session in
/-- The state that calls share. Serials, queues and tickets are numbered in the
order in which they are made. -/
structure Hub where
  clock : Moment := 0
  registered : Dictionary String Serial := .empty
  sessions : Dictionary Serial Session := .empty
  queues : Dictionary QueueId ControlQueue := .empty
  replies : Dictionary Ticket Reply := .empty
  nextSerial : Serial := 0
  nextQueue : QueueId := 0
  nextTicket : Ticket := 0

namespace Hub

open Session

/-- The hub some time later. -/
def later (h : Hub) (time : Nat) : Hub :=
  { h with clock := h.clock + time }

/-- Changes a session. -/
def modify (h : Hub) (s : Serial) (f : Session → Session) : Hub :=
  match h.sessions.get? s with
  | some session => { h with sessions := h.sessions.insert s (f session) }
  | none => h

/-- Changes a queue. -/
def modifyQueue (h : Hub) (q : QueueId) (f : ControlQueue → ControlQueue) : Hub :=
  match h.queues.get? q with
  | some queue => { h with queues := h.queues.insert q (f queue) }
  | none => h

/-! ## The registry -/

/-- Makes a session without registering it. -/
def make (h : Hub) (info : Info) (shellHere : Bool) : Serial × Hub :=
  (h.nextSerial,
   { h with
     sessions := h.sessions.insert h.nextSerial (Session.make info shellHere h.clock)
     nextSerial := h.nextSerial + 1 })

/-- The session that is registered under an id. -/
def find? (h : Hub) (id : String) : Option Serial :=
  h.registered.get? id

/-- Registers a session under its id. The answer is the session that was
registered there before. -/
def put (h : Hub) (s : Serial) : Option Serial × Hub :=
  match h.sessions.get? s with
  | some session =>
    (h.find? session.info.id, { h with registered := h.registered.insert session.info.id s })
  | none => (none, h)

/-- Takes an id out of the registry. The answer is the session that was
registered there. -/
def remove (h : Hub) (id : String) : Option Serial × Hub :=
  match h.find? id with
  | some s => (some s, { h with registered := h.registered.erase id })
  | none => (none, h)

/-- Whether the session registered under an id has been idle for longer than
allowed. -/
def staleAt (h : Hub) (maxIdle : Nat) (id : String) : Bool :=
  match h.find? id >>= h.sessions.get? with
  | some session => session.isStale h.clock maxIdle
  | none => false

/-- The ids whose sessions have been idle for longer than allowed. -/
def staleIds (h : Hub) (maxIdle : Nat) : List String :=
  h.registered.keys.filter (h.staleAt maxIdle)

/-- Takes an id out of the registry if its session has been idle for longer than
allowed. The look and the removal are one step: the registry stays locked from
one to the other, and after the session's activity has been read, under its own
lock, no further lock is taken before the id is removed. -/
def removeStale (h : Hub) (maxIdle : Nat) (id : String) : Option Serial × Hub :=
  if h.staleAt maxIdle id then h.remove id else (none, h)

/-- The number of registered sessions. -/
def size (h : Hub) : Nat :=
  h.registered.size

/-- The registered sessions. -/
def registeredSessions (h : Hub) : List Session :=
  h.registered.entries.filterMap fun e => h.sessions.get? e.2

/-- The registry as operators see it. -/
def outline (h : Hub) : Text.Outline :=
  .record "SessionRegistry" [("sessions", .nat h.size)] true

/-- The description of a hub. -/
def describe (h : Hub) : String := h.outline.toText

/-! ## One session -/

/-- Records activity. The clock is read before the lock on the activity is taken,
and what was read is stored under the lock. Here both are one step: a touch that
is held up in between, and then stores a time that has passed, counts as of when
it stores. -/
def touch (h : Hub) (s : Serial) : Hub :=
  h.modify s fun session => session.touched h.clock

/-- Marks a session as closed. The answer is whether it was closed already. -/
def markClosed (h : Hub) (s : Serial) : Bool × Hub :=
  ((h.sessions.get? s).any (·.closed), h.modify s fun session => { session with closed := true })

/-- Takes the shell channel, if it is here. The answer is whether it was. -/
def takeShell (h : Hub) (s : Serial) : Bool × Hub :=
  ((h.sessions.get? s).any (·.shellHere),
   h.modify s fun session => { session with shellHere := false })

/-- Takes the control queue out of a session, along with the session's share in
sending on it. -/
def takeControl (h : Hub) (s : Serial) : Option QueueId × Hub :=
  ((h.sessions.get? s).bind (·.control),
   h.modify s fun session => { session with control := none })

/-- Records an attempt to release a handle. -/
def release (h : Hub) (s : Serial) (handle : Handle) (failed : Bool) : Hub :=
  h.modify s fun session => { session with releases := ⟨handle, failed⟩ :: session.releases }

/-! ## Control queues -/

/-- Gives up a share in sending on a queue. -/
def dropSender (h : Hub) (q : QueueId) : Hub :=
  h.modifyQueue q .released

/-- Takes the control queue out of a session, which is a sender on it no
longer. -/
def detach (h : Hub) (s : Serial) : Hub :=
  match h.takeControl s with
  | (some q, h) => h.dropSender q
  | (none, h) => h

/-- Installs a fresh control queue in a session. One that was there before loses
the session as a sender. -/
def attach (h : Hub) (s : Serial) : QueueId × Hub :=
  let h := h.detach s
  (h.nextQueue,
   { h.modify s fun session => { session with control := some h.nextQueue } with
     queues := h.queues.insert h.nextQueue {}
     nextQueue := h.nextQueue + 1 })

/-- Joins in sending on a session's control queue, if it has one. -/
def shareControl (h : Hub) (s : Serial) : Option QueueId × Hub :=
  match (h.sessions.get? s).bind (·.control) with
  | some q => (some q, h.modifyQueue q .shared)
  | none => (none, h)

/-- Sends a command if that is possible without waiting. -/
def trySend (h : Hub) (q : QueueId) (c : Command) : Hub :=
  h.modifyQueue q fun queue => if queue.accepts then queue.push c else queue

/-- A fresh ticket, whose answer is awaited. -/
def newTicket (h : Hub) : Ticket × Hub :=
  (h.nextTicket,
   { h with
     replies := h.replies.insert h.nextTicket .awaited
     nextTicket := h.nextTicket + 1 })

/-- Hands back an answer. -/
def reply (h : Hub) (t : Ticket) (r : Reply) : Hub :=
  { h with replies := h.replies.insert t r }

/-- What a reader finds at the front of a queue. -/
inductive Received where
  | command (c : Command)
  | ended
  | nothingYet
  deriving DecidableEq, Repr

/-- Takes the next command off a queue. -/
def receive (h : Hub) (q : QueueId) : Received × Hub :=
  match h.queues.get? q with
  | none => (.ended, h)
  | some queue =>
    match queue.queued with
    | c :: rest => (.command c, h.modifyQueue q fun queue => { queue with queued := rest })
    | [] => (if queue.senders = 0 then .ended else .nothingYet, h)

/-- The reader of a queue goes. What waits in the queue will not be answered. -/
def abandon (h : Hub) (q : QueueId) : Hub :=
  match h.queues.get? q with
  | none => h
  | some queue =>
    (queue.queued.filterMap Command.ticket?).foldl (fun h t => h.reply t .dropped)
      (h.modifyQueue q .abandoned)

end Hub

end ShellGateway
