import ShellGateway.Proofs.Session.Attached

/-!
# A call by itself

What a call does to the hub is best seen when nobody else calls. Even then it is not alone: time
passes, and at the other end of a control queue commands are taken off and answered, and the
reader may go (`Aside`). `Call.alone` runs a call with any of this in between its own steps.

None of it depends on the sessions (`Hub.beside_withSessions`), so the hub that a call leaves can be
compared with the hub that would be there without the call, `Hub.besideAll`. A relation between
the two that each step of the call keeps, and that everything beside it keeps, holds after every
run (`Call.alone_induction`).
-/

namespace ShellGateway

namespace Session

/-- What goes on beside a call when nobody else calls. -/
inductive Aside where
  | wait (time : Nat)
  | receive (q : QueueId)
  | reply (t : Ticket) (r : Reply)
  | abandon (q : QueueId)
  deriving DecidableEq

/-- A step of a call, or something that goes on beside it. -/
inductive Solo where
  | step (e : Event)
  | aside (a : Aside)
  deriving DecidableEq

/-- What went on beside a call. -/
def asides (moves : List Solo) : List Aside :=
  moves.filterMap fun
    | .aside a => some a
    | .step _ => none

end Session

namespace Hub

open Session

/-- The hub after something that goes on beside a call. -/
def beside (h : Hub) : Aside → Hub
  | .wait time => h.later time
  | .receive q => (h.receive q).2
  | .reply t r => h.reply t r
  | .abandon q => h.abandon q

/-- The hub as it would be without the call. -/
def besideAll (h : Hub) (beside : List Aside) : Hub :=
  beside.foldl Hub.beside h

/-! ## Sessions are left alone -/

/-- The hub with other sessions. -/
def withSessions (h : Hub) (d : Dictionary Serial Session) : Hub :=
  { h with sessions := d }

theorem modifyQueue_withSessions (h : Hub) (d : Dictionary Serial Session) (q : QueueId)
    (f : ControlQueue → ControlQueue) :
    (h.withSessions d).modifyQueue q f = (h.modifyQueue q f).withSessions d := by
  simp only [modifyQueue, withSessions]
  split <;> rfl

/-- **Nothing that goes on beside a call depends on the sessions.** -/
theorem beside_withSessions (h : Hub) (d : Dictionary Serial Session) (a : Aside) :
    (h.withSessions d).beside a = (h.beside a).withSessions d := by
  cases a with
  | wait time => rfl
  | reply t r => rfl
  | receive q =>
    show ((h.withSessions d).receive q).2 = (h.receive q).2.withSessions d
    have same : (h.withSessions d).queues.get? q = h.queues.get? q := rfl
    unfold receive
    rw [same]
    split
    · rfl
    · split
      · exact modifyQueue_withSessions h d q _
      · rfl
  | abandon q =>
    -- the answers are dropped one after the other
    have dropped : ∀ (tickets : List Ticket) (h : Hub),
        tickets.foldl (fun h t => h.reply t .dropped) (h.withSessions d) =
          (tickets.foldl (fun h t => h.reply t .dropped) h).withSessions d := by
      intro tickets
      induction tickets with
      | nil => exact fun h => rfl
      | cons t rest ih => exact fun h => ih (h.reply t .dropped)
    show (h.withSessions d).abandon q = (h.abandon q).withSessions d
    have same : (h.withSessions d).queues.get? q = h.queues.get? q := rfl
    unfold abandon
    rw [same]
    split
    · rfl
    · rw [modifyQueue_withSessions]
      exact dropped _ _

@[simp]
theorem sessions_beside (h : Hub) (a : Aside) : (h.beside a).sessions = h.sessions := by
  have own := congrArg Hub.sessions (beside_withSessions h h.sessions a)
  exact own

@[simp]
theorem registered_beside (h : Hub) (a : Aside) : (h.beside a).registered = h.registered := by
  cases a with
  | wait time => rfl
  | reply t r => rfl
  | receive q =>
    have received : Hub.SameSessions h (h.receive q).2 := h.frame_receive q
    exact received.registered
  | abandon q =>
    have abandoned : Hub.SameSessions h (h.abandon q) := h.frame_abandon q
    exact abandoned.registered

@[simp]
theorem find?_beside (h : Hub) (a : Aside) (id : String) : (h.beside a).find? id = h.find? id :=
  congrArg (·.get? id) (registered_beside h a)

theorem find?_besideAll (h : Hub) (beside : List Aside) (id : String) :
    (h.besideAll beside).find? id = h.find? id := by
  induction beside generalizing h with
  | nil => rfl
  | cons a rest ih => exact (ih (h.beside a)).trans (find?_beside h a id)

/-! ## Hubs in which the same is to be found -/

variable {h h' h'' : Hub}

/-- Two hubs in which the same is to be found differ at most in how the sessions are listed. -/
theorem Same.eq_withSessions (same : h.Same h') : h' = h.withSessions h'.sessions := by
  obtain ⟨clock, registered, -, queues, replies, nextSerial, nextQueue, nextTicket⟩ := same
  cases h'
  subst clock registered queues replies nextSerial nextQueue nextTicket
  rfl

theorem same_withSessions (h : Hub) {d d' : Dictionary Serial Session}
    (sessions : ∀ s, d'.get? s = d.get? s) : (h.withSessions d).Same (h.withSessions d') :=
  ⟨rfl, rfl, sessions, rfl, rfl, rfl, rfl, rfl⟩

theorem Same.trans (a : h.Same h') (b : h'.Same h'') : h.Same h'' where
  clock := b.clock.trans a.clock
  registered := b.registered.trans a.registered
  sessions s := (b.sessions s).trans (a.sessions s)
  queues := b.queues.trans a.queues
  replies := b.replies.trans a.replies
  nextSerial := b.nextSerial.trans a.nextSerial
  nextQueue := b.nextQueue.trans a.nextQueue
  nextTicket := b.nextTicket.trans a.nextTicket

theorem Same.find? (same : h.Same h') (id : String) : h'.find? id = h.find? id :=
  congrArg (·.get? id) same.registered

/-- They stay so. -/
theorem Same.beside (same : h.Same h') (a : Aside) : (h.beside a).Same (h'.beside a) := by
  rw [same.eq_withSessions, beside_withSessions]
  refine same_withSessions (h.beside a) fun s => ?_
  exact (same.sessions s).trans (congrArg (·.get? s) (sessions_beside h a).symm)

/-! ## Activity -/

/-- The hub after activity of a session at a given time. -/
def activeAt (h : Hub) (s : Serial) (now : Moment) : Hub :=
  h.modify s (·.touched now)

theorem modify_withSessions (h : Hub) (s : Serial) (f : Session → Session) :
    h.modify s f = h.withSessions (h.modify s f).sessions := by
  simp only [modify, withSessions]
  split <;> rfl

theorem registered_modify (h : Hub) (s : Serial) (f : Session → Session) :
    (h.modify s f).registered = h.registered := by
  rw [modify_withSessions]
  rfl

/-- A session changes in the same way whatever goes on beside it. -/
theorem modify_beside (h : Hub) (s : Serial) (f : Session → Session) (a : Aside) :
    (h.beside a).modify s f = (h.modify s f).beside a := by
  have sessions : ((h.beside a).modify s f).sessions = (h.modify s f).sessions := by
    simp only [modify, sessions_beside]
    split <;> simp
  rw [modify_withSessions (h.beside a), sessions, ← beside_withSessions, ← modify_withSessions]

theorem Same.modify (same : h.Same h') (s : Serial) (f : Session → Session) :
    (h.modify s f).Same (h'.modify s f) := by
  have whole : h'.modify s f = h.withSessions (h'.modify s f).sessions := by
    rw [modify_withSessions h', same.eq_withSessions]
    rfl
  rw [modify_withSessions h, whole]
  refine same_withSessions h fun s' => ?_
  rw [get?_modify, get?_modify, same.sessions, same.sessions]

end Hub

namespace Session.Call

/-- A call that runs by itself, with what goes on beside it, as far as its steps can be taken. -/
def alone (g : Gateway) (h : Hub) (c : Call) : List Solo → Option (Hub × Call)
  | [] => some (h, c)
  | .step e :: rest => c.step g e h >>= fun p => alone g p.1 p.2 rest
  | .aside a :: rest => alone g (h.beside a) c rest

/-- A request that nobody else calls beside is answered, and leaves this hub. -/
def Comes (g : Gateway) (h : Hub) (r : Request) (moves : List Solo) (h' : Hub) (a : Answer) : Prop :=
  (asked r).alone g h moves = some (h', answered a)

variable {g : Gateway} {h h' k : Hub} {c c' : Call}

/-- **What each step keeps, and everything beside it, holds after every run.** The relation is
between the hub without the call, the hub with it, and where the call stands. -/
theorem alone_induction {R : Hub → Hub → Call → Prop}
    (aside : ∀ k h c a, R k h c → R (k.beside a) (h.beside a) c)
    (step : ∀ k h c e h' c', R k h c → c.step g e h = some (h', c') → R k h' c')
    {moves : List Solo} (start : R k h c) (ran : c.alone g h moves = some (h', c')) :
    R (k.besideAll (asides moves)) h' c' := by
  induction moves generalizing k h c with
  | nil =>
    cases ran
    exact start
  | cons m rest ih =>
    cases m with
    | aside a => exact ih (aside k h c a start) ran
    | step e =>
      obtain ⟨⟨h₁, c₁⟩, stepped, ran⟩ := Option.bind_eq_some_iff.mp ran
      exact ih (step k h c e h₁ c₁ start stepped) ran

end Session.Call

end ShellGateway
