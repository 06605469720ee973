import ShellGateway.Remote.Transfer
import ShellGateway.Session.Hub
import ShellGateway.Terminal.Relay

/-!
# Calls

What web clients, the sweeper and the gateway itself ask of the hub. A call is
split where other calls can come in between: wherever it lets go of something
shared or waits for the outside. `Call.step` is one such piece; a call that
cannot go on yet, because it waits for room in a queue or for an answer, has no
step.

A session that leaves the registry is closed by the call that took it out, after
it has let go of the registry. Closing marks the session first, so that of
several closings one releases the handles; it goes through all of them, whether
or not releasing one fails.
-/

namespace ShellGateway

/-- What the gateway goes by when it opens sessions: which clients may, the
world outside, and the id of each new session. -/
structure Gateway where
  admission : Net.Admission := .everyone
  network : Remote.Network
  newId : Session.Serial → String

/-- The gateway as operators see it: the registry, and nothing of how sessions
are opened. -/
def Gateway.describe (_ : Gateway) (h : Hub) : String :=
  (Text.Outline.record "Gateway" [("registry", h.outline)] true).toText

namespace Session

/-- What a file operation yields. -/
inductive Transferred where
  | listing (listing : Remote.Listing)
  | contents (bytes : Bytes)
  | done
  deriving DecidableEq, Repr

/-- What can be asked for. Requests on a serial are made by those who hold the
session itself, all others go through the registry. -/
inductive Request where
  | put (s : Serial)
  | get (id : String)
  | delete (id : String)
  | touch (id : String)
  | sweep (maxIdle : Nat)
  | create (client : Net.IpAddress) (target : Net.Target) (login : Login) (term : String)
  | disconnect (id : String)
  /-- A touch that fails when no session has the id. -/
  | keepAlive (id : String)
  | view (id : String)
  | exec (id command : String)
  | transfer (id : String)
  | resize (id : String) (window : Window)
  | terminal (id : String) (window : Window)
  | closeSession (s : Serial)
  | resizeSession (s : Serial) (window : Window)
  | execSession (s : Serial) (command : String)
  | touchSession (s : Serial)
  | takeShell (s : Serial)
  | attachControl (s : Serial)
  deriving DecidableEq, Repr

/-- What a call comes to. -/
inductive Answer where
  | done
  | flag (b : Bool)
  | count (n : Nat)
  /-- The session that was found or replaced, if there was one. -/
  | session (s : Option Serial)
  | created (id : String)
  | view (v : View)
  | output (bytes : Bytes)
  | transferred (t : Transferred)
  | queue (q : QueueId)
  | failed (why : Failure)
  deriving DecidableEq, Repr

/-- What the outside contributes to a step. -/
inductive Event where
  /-- Nothing. -/
  | go
  /-- A handle was released, or could not be. -/
  | released (failed : Bool)
  /-- A command has run. -/
  | ran (result : Except Failure Bytes)
  /-- A file operation has ended. -/
  | transferred (result : Except Failure Transferred)
  /-- Something happened to the terminal, other than through its queue. -/
  | terminal (e : Terminal.Event)
  /-- The terminal looks at its queue; a window that it finds there is passed
  on, or cannot be. -/
  | control (fault : Option String)
  deriving DecidableEq

/-- How far closing a session has come. -/
inductive Closing where
  | marking
  | takingControl
  | signalling (q : QueueId)
  | releasingTransfer
  | takingShell
  | releasingShell
  | releasingTransport
  deriving DecidableEq, Repr

/-- What a call does after it has removed and closed a session. -/
inductive Next where
  | answer (a : Answer)
  | sweep (maxIdle : Nat) (stale : List String) (evicted : Nat)
  deriving DecidableEq, Repr

/-- What a session is used for once its activity has been recorded. -/
inductive Use where
  | exec (command : String)
  | transfer
  deriving DecidableEq, Repr

/-- How far a call has come. -/
inductive Call where
  | asked (r : Request)
  | connecting (client : Net.IpAddress) (target : Net.Target) (login : Login) (term : String)
  | registering (s : Serial)
  | touching (s : Serial) (a : Answer)
  | viewing (s : Serial)
  | beginning (s : Serial) (u : Use)
  | underway (s : Serial) (u : Use)
  /-- Takes an id out of the registry, closes its session and goes on with
  `next`; without a session it goes on with `absent`. -/
  | removing (id : String) (next absent : Next)
  | closing (s : Serial) (stage : Closing) (next : Next)
  | sweeping (maxIdle : Nat) (stale : List String) (evicted : Nat)
  /-- Takes part in sending on the session's queue. `evict` is the id to give up
  when the terminal turns out to be gone. -/
  | sharing (s : Serial) (window : Window) (evict : Option String)
  | sending (s : Serial) (q : QueueId) (window : Window) (evict : Option String)
  | awaiting (s : Serial) (q : QueueId) (ticket : Ticket) (evict : Option String)
  | applied (s : Serial) (q : QueueId)
  | takingShell (id : String) (s : Serial) (window : Window)
  | attending (id : String) (s : Serial) (window : Window)
  | bridging (id : String) (s : Serial) (q : Option QueueId) (task : TerminalTask)
  | answered (a : Answer)
  deriving DecidableEq

/-! ## Failures of calls -/

/-- A window was sent to a session that no terminal drives. -/
def noTerminal : Failure := .session "no interactive shell attached"

/-- The terminal has gone before it took a window. -/
def terminalGone : Failure := .transport "shell task has stopped"

/-- The terminal has gone before it answered. -/
def resizeDropped : Failure := .transport "shell task dropped the resize"

/-- Another terminal has the session's shell. -/
def shellTaken : Failure := .session "interactive shell already attached"

/-- The remote host offers no file transfer. -/
def noTransfer : Failure := .sftp "sftp is not available for this session"

/-- What a terminal's call comes to. -/
def Answer.ofTerminal : Programs.TaskEnd (Except Failure Unit) → Answer
  | .finished (.ok ()) => .done
  | .finished (.error why) => .failed why
  | .brokeDown => .failed (.session "terminal bridge panicked")
  | .stopped task =>
    .failed (.session
      ("terminal bridge aborted: task " ++ Digit.decimal task ++ " was cancelled"))

/-! ## Steps -/

namespace Call

/-- What a call does next. -/
def ofNext : Next → Call
  | .answer a => answered a
  | .sweep maxIdle stale evicted => sweeping maxIdle stale evicted

/-- Goes on to close a session that was removed, if one was. -/
def closeRemoved (removed : Option Serial) (closed absent : Next) : Call :=
  match removed with
  | some s => closing s .marking closed
  | none => ofNext absent

/-- Goes on to remove and close whatever session has an id, and then answers. -/
def giveUp (id : String) (a : Answer) : Call :=
  removing id (.answer a) (.answer a)

/-- Looks an id up for a request that fails without a session. -/
def lookUp (h : Hub) (id : String) (found : Serial → Call) : Hub × Call :=
  match h.find? id with
  | some s => (h, found s)
  | none => (h, answered (.failed (.sessionNotFound id)))

/-- The same, after the window that comes with the request has been checked. -/
def lookUpFor (h : Hub) (id : String) (w : Window) (found : Serial → Call) : Hub × Call :=
  match Window.checked w.width w.height with
  | .ok _ => lookUp h id found
  | .error why => (h, answered (.failed why))

/-- The first step of a call. -/
def start (g : Gateway) (h : Hub) : Request → Hub × Call
  | .put s =>
    let (replaced, h) := h.put s
    (h, answered (.session replaced))
  | .get id => (h, answered (.session (h.find? id)))
  | .delete id => (h, removing id (.answer (.flag true)) (.answer (.flag false)))
  | .touch id =>
    match h.find? id with
    | some s => (h, touching s (.flag true))
    | none => (h, answered (.flag false))
  | .sweep maxIdle => (h, sweeping maxIdle (h.staleIds maxIdle) 0)
  | .create client target login term =>
    if g.admission.admits client then (h, connecting client target login term)
    else (h, answered (.failed (.notAdmitted client)))
  | .disconnect id => (h, giveUp id .done)
  | .keepAlive id => lookUp h id fun s => touching s .done
  | .view id => lookUp h id viewing
  | .exec id command => lookUp h id fun s => beginning s (.exec command)
  | .transfer id => lookUp h id fun s => beginning s .transfer
  | .resize id w => lookUpFor h id w fun s => sharing s w (some id)
  | .terminal id w => lookUpFor h id w fun s => takingShell id s w
  | .closeSession s => (h, closing s .marking (.answer .done))
  | .resizeSession s w => (h, sharing s w none)
  | .execSession s command => (h, beginning s (.exec command))
  | .touchSession s => (h, touching s .done)
  | .takeShell s =>
    let (taken, h) := h.takeShell s
    (h, answered (.flag taken))
  | .attachControl s =>
    let (q, h) := h.attach s
    (h, answered (.queue q))

/-- Opens a connection and makes the session that holds it. -/
def connect (g : Gateway) (h : Hub) (client : Net.IpAddress) (target : Net.Target) (login : Login)
    (term : String) : Hub × Call :=
  match g.network.connect target login with
  | .error why => (h, answered (.failed why))
  | .ok hasTransfer =>
    let info : Info :=
      { id := g.newId h.nextSerial, target, login, term, clientIp := client, hasTransfer }
    let (s, h) := h.make info true
    (h, registering s)

/-- Registers a session that was just made, and goes on to close the one that it
replaces. -/
def register (h : Hub) (s : Serial) : Hub × Call :=
  let id := ((h.sessions.get? s).map (·.info.id)).getD ""
  let (replaced, h) := h.put s
  (h, closeRemoved replaced (.answer (.created id)) (.answer (.created id)))

/-- Starts to use a session. -/
def begin (h : Hub) (s : Serial) (u : Use) : Hub × Call :=
  let h := h.touch s
  if u = .transfer && !(h.sessions.get? s).any (·.info.hasTransfer) then
    (h, answered (.failed noTransfer))
  else (h, underway s u)

/-- One step of a closing. -/
def stepClosing (h : Hub) (s : Serial) (next : Next) (e : Event) : Closing → Option (Hub × Call)
  | .marking =>
    if e = .go then
      let (already, h) := h.markClosed s
      some (h, if already then ofNext next else closing s .takingControl next)
    else none
  | .takingControl =>
    if e = .go then
      let (q?, h) := h.takeControl s
      some (h, closing s (match q? with
        | some q => .signalling q
        | none => .releasingTransfer) next)
    else none
  | .signalling q =>
    if e = .go then
      some ((h.trySend q .close).dropSender q, closing s .releasingTransfer next)
    else none
  | .releasingTransfer =>
    if (h.sessions.get? s).any (·.info.hasTransfer) then
      match e with
      | .released failed => some (h.release s .transfer failed, closing s .takingShell next)
      | _ => none
    else if e = .go then some (h, closing s .takingShell next)
    else none
  | .takingShell =>
    if e = .go then
      let (taken, h) := h.takeShell s
      some (h, closing s (if taken then .releasingShell else .releasingTransport) next)
    else none
  | .releasingShell =>
    match e with
    | .released failed => some (h.release s .shell failed, closing s .releasingTransport next)
    | _ => none
  | .releasingTransport =>
    match e with
    | .released failed => some (h.release s .transport failed, ofNext next)
    | _ => none

/-- One step of a sweep: the next of the sessions that the scan found is looked
at again, and removed if it is still stale. -/
def stepSweep (h : Hub) (maxIdle : Nat) (evicted : Nat) : List String → Hub × Call
  | [] => (h, answered (.count evicted))
  | id :: rest =>
    let (removed, h) := h.removeStale maxIdle id
    (h, closeRemoved removed (.sweep maxIdle rest (evicted + 1)) (.sweep maxIdle rest evicted))

/-- The end of a request for a window that failed. A failure that makes the
connection unusable gives the session up. -/
def resizeFailed (h : Hub) (q : QueueId) (evict : Option String) (why : Failure) : Hub × Call :=
  let h := h.dropSender q
  match evict with
  | some id =>
    (h, if why.isTransport then giveUp id (.failed why) else answered (.failed why))
  | none => (h, answered (.failed why))

/-- Sends a window, if the queue has room; a queue without a reader refuses
it. -/
def send (h : Hub) (s : Serial) (q : QueueId) (w : Window) (evict : Option String) :
    Option (Hub × Call) :=
  match h.queues.get? q with
  | none => some (resizeFailed h q evict terminalGone)
  | some queue =>
    if !queue.reading then some (resizeFailed h q evict terminalGone)
    else if queue.hasRoom then
      let (ticket, h) := h.newTicket
      some (h.trySend q (.resize ticket w), awaiting s q ticket evict)
    else none

/-- Takes the answer to a window, if there is one. -/
def await (h : Hub) (s : Serial) (q : QueueId) (ticket : Ticket) (evict : Option String) :
    Option (Hub × Call) :=
  match h.replies.get? ticket with
  | some (.given (.ok ())) => some (h, applied s q)
  | some (.given (.error why)) => some (resizeFailed h q evict why)
  | some .dropped => some (resizeFailed h q evict resizeDropped)
  | some .awaited | none => none

/-- Takes the shell for a terminal. -/
def takeShellFor (h : Hub) (id : String) (s : Serial) (w : Window) : Hub × Call :=
  let (taken, h) := h.takeShell s
  (h, if taken then attending id s w else answered (.failed shellTaken))

/-- Starts the terminal. -/
def attend (h : Hub) (id : String) (s : Serial) (w : Window) : Hub × Call :=
  let term := ((h.sessions.get? s).map (·.info.term)).getD ""
  (h.touch s, bridging id s none { terminal := ⟨term, w⟩ })

/-- A terminal after one of its events. Once it has ended, its queue is
abandoned and the session given up. -/
def bridged (h : Hub) (id : String) (s : Serial) (q : Option QueueId) (task : TerminalTask) :
    Hub × Call :=
  match task.end? with
  | none => (h, bridging id s q task)
  | some how =>
    let h := match q with
      | some q => h.abandon q
      | none => h
    (h, giveUp id (.ofTerminal how))

/-- One step of a terminal. -/
def stepTerminal (h : Hub) (id : String) (s : Serial) (q : Option QueueId) (task : TerminalTask) :
    Event → Option (Hub × Call)
  | .terminal .attached => do
    let task ← task.step .attached
    let (q, h) := h.attach s
    return bridged h id s (some q) task
  | .terminal (.command _ _) | .terminal .queueEnd => none
  | .terminal (.input chunk fault) => do
    let task ← task.step (.input chunk fault)
    return bridged (h.touch s) id s q task
  | .terminal e => do
    let task ← task.step e
    return bridged h id s q task
  | .control fault => do
    let queue ← q
    match h.receive queue with
    | (.nothingYet, _) => none
    | (.ended, h) => do
      let task ← task.step .queueEnd
      return bridged h id s q task
    | (.command .close, h) => do
      let task ← task.step (.command .close fault)
      return bridged h id s q task
    | (.command (.resize ticket w), h) => do
      let task ← task.step (.command (.resize ticket w) fault)
      let result := (task.forwarded.getLast?.map (·.result)).getD (.ok ())
      return bridged (h.reply ticket (.given result)) id s q task
  | _ => none

/-- A step to which the outside contributes nothing. -/
def onGo (e : Event) (r : Hub × Call) : Option (Hub × Call) :=
  if e = .go then some r else none

/-- One step of a call. -/
def step (g : Gateway) (e : Event) (h : Hub) : Call → Option (Hub × Call)
  | asked r => onGo e (start g h r)
  | connecting client target login term => onGo e (connect g h client target login term)
  | registering s => onGo e (register h s)
  | touching s a => onGo e (h.touch s, answered a)
  | viewing s =>
    onGo e (h, answered (match h.sessions.get? s with
      | some session => .view session.view
      | none => .done))
  | beginning s u => onGo e (begin h s u)
  | underway _ (.exec _) =>
    match e with
    | .ran (.ok bytes) => some (h, answered (.output bytes))
    | .ran (.error why) => some (h, answered (.failed why))
    | _ => none
  | underway _ .transfer =>
    match e with
    | .transferred (.ok t) => some (h, answered (.transferred t))
    | .transferred (.error why) => some (h, answered (.failed why))
    | _ => none
  | removing id next absent =>
    let (removed, h) := h.remove id
    onGo e (h, closeRemoved removed next absent)
  | closing s stage next => stepClosing h s next e stage
  | sweeping maxIdle stale evicted => onGo e (stepSweep h maxIdle evicted stale)
  | sharing s w evict =>
    onGo e (match h.shareControl s with
      | (some q, h) => (h, sending s q w evict)
      | (none, h) => (h, answered (.failed noTerminal)))
  | sending s q w evict => if e = .go then send h s q w evict else none
  | awaiting s q ticket evict => if e = .go then await h s q ticket evict else none
  | applied s q => onGo e ((h.touch s).dropSender q, answered .done)
  | takingShell id s w => onGo e (takeShellFor h id s w)
  | attending id s w => onGo e (attend h id s w)
  | bridging id s q task => stepTerminal h id s q task e
  | answered _ => none

/-- The answer of a call that has come to its end. -/
def answer? : Call → Option Answer
  | answered a => some a
  | _ => none

end Call

end Session

end ShellGateway
