import Mathlib.Data.List.Count
import ShellGateway.Proofs.Session.Trail
import ShellGateway.Proofs.Terminal.Tickets

/-!
# Parties

Ids belong to parties, and with an id the session that was made under it; so does,
through what it names, each request that concerns one session. Sweeps look at every
session and are nobody's. Neither are connections that the gateway opens itself, since
it picks the id, and queues that are installed from outside.

A schedule in which every call belongs to a party has a roll: whose the sessions and the
calls are, by number. `Roll.portion` is what a party does in a schedule, as a schedule of
its own: the party's calls, numbered among themselves, and nothing of anybody else's.
Sessions are made and time passes for all parties alike.

`SameFor` says that a party cannot tell two systems apart, one of which has run its
portion alone.
-/

namespace ShellGateway

variable {ι : Type}

namespace Session

/-! ## Whose it is -/

/-- The party that makes a request. `sessions` says whose the sessions are. -/
def Request.party? (owner : String → ι) (sessions : List ι) : Request → Option ι
  | .get id | .delete id | .touch id | .disconnect id | .keepAlive id | .view id | .exec id _
  | .transfer id | .resize id _ | .terminal id _ => some (owner id)
  | .put s | .closeSession s | .resizeSession s _ | .execSession s _ | .touchSession s
  | .takeShell s => sessions[s]?
  | .sweep _ | .create _ _ _ _ | .attachControl _ => none

/-- Whose the sessions and the calls are, by number. -/
structure Roll (ι : Type) where
  sessions : List ι := []
  calls : List ι := []

namespace Roll

/-- The roll after a move, unless the move starts a call that is nobody's. -/
def after (owner : String → ι) (b : Roll ι) : Move → Option (Roll ι)
  | .start r => (r.party? owner b.sessions).map fun p => { b with calls := b.calls ++ [p] }
  | .make info _ => some { b with sessions := b.sessions ++ [owner info.id] }
  | .step _ _ | .wait _ => some b

/-- The roll after a schedule, unless one of its calls is nobody's. -/
def record (owner : String → ι) (b : Roll ι) : List Move → Option (Roll ι)
  | [] => some b
  | m :: rest => b.after owner m >>= fun b => b.record owner rest

theorem record_cons_eq_some {owner : String → ι} {b b' : Roll ι} {m : Move} {rest : List Move}
    (h : b.record owner (m :: rest) = some b') :
    ∃ mid, b.after owner m = some mid ∧ mid.record owner rest = some b' :=
  Option.bind_eq_some_iff.mp h

variable [DecidableEq ι]

/-- The number of a party's call among the party's own. -/
def own (b : Roll ι) (p : ι) (c : CallId) : CallId :=
  (b.calls.take c).count p

/-- A party's share in a move. -/
def share (owner : String → ι) (p : ι) (b : Roll ι) : Move → List Move
  | .start r => if r.party? owner b.sessions = some p then [.start r] else []
  | .step c e => if b.calls[c]? = some p then [.step (b.own p c) e] else []
  | .make info shellHere => [.make info shellHere]
  | .wait time => [.wait time]

/-- A party's share in a schedule, up to the first call that is nobody's. -/
def portion (owner : String → ι) (p : ι) (b : Roll ι) : List Move → List Move
  | [] => []
  | m :: rest => b.share owner p m ++
      match b.after owner m with
      | some b => b.portion owner p rest
      | none => []

theorem portion_cons {owner : String → ι} {b mid : Roll ι} {m : Move} (p : ι) (rest : List Move)
    (h : b.after owner m = some mid) :
    b.portion owner p (m :: rest) = b.share owner p m ++ mid.portion owner p rest := by
  simp only [portion, h]

end Roll

/-! ## What a party sees -/

/-- A control queue with no names on what waits in it. -/
def ControlQueue.anonymous (q : ControlQueue) : ControlQueue :=
  { q with queued := q.queued.map Command.anonymous }

/-- How a session stands, whatever its control queue is called. -/
structure Standing where
  /-- The session, but for its control queue. -/
  session : Session
  /-- What is in the control queue, if one is installed. -/
  control : Option (Option ControlQueue)

/-- The terminal that a call runs. -/
def Call.terminal? : Call → Option TerminalTask
  | bridging _ _ _ task => some task
  | _ => none

end Session

open Session

/-- How a session stands. -/
def Hub.standing? (h : Hub) (s : Serial) : Option Standing :=
  (h.sessions.get? s).map fun x =>
    { session := { x with control := none }
      control := x.control.map fun q => (h.queues.get? q).map ControlQueue.anonymous }

namespace Session

/-- The terminal that a call runs, whatever the windows that it passed on are called. -/
def System.terminal? (t : System) (c : CallId) : Option TerminalTask :=
  (t.calls[c]? >>= Call.terminal?).map TerminalTask.anonymous

/-- A party cannot tell two systems apart. In `alone` the party's calls are numbered among
themselves, in `together` with everybody's. -/
structure SameFor [DecidableEq ι] (g : Gateway) (owner : String → ι) (p : ι) (b : Roll ι)
    (alone together : System) : Prop where
  clock : alone.hub.clock = together.hub.clock
  /-- Its calls have come to the same. -/
  answers : ∀ c, b.calls[c]? = some p → alone.answer? (b.own p c) = together.answer? c
  /-- Its terminals have done the same. -/
  terminals : ∀ c, b.calls[c]? = some p → alone.terminal? (b.own p c) = together.terminal? c
  /-- Its calls that have not come to an end can go on with the same. -/
  ready : ∀ c e, b.calls[c]? = some p →
    (alone.move g (.step (b.own p c) e)).isSome = (together.move g (.step c e)).isSome
  registered : ∀ id, owner id = p → alone.hub.find? id = together.hub.find? id
  sessions : ∀ s, b.sessions[s]? = some p → alone.hub.standing? s = together.hub.standing? s

end Session

end ShellGateway
