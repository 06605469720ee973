import ShellGateway.Proofs.Session.Piece

/-!
# Who can send on a control queue

A queue ends for its reader when nothing waits in it and nobody can send any more. Those who
can send have a share in it: the session that it is installed in; each call that was let in by
that session to send a window, until it returns; and a closing that has taken the queue out of
the session, until it has told the terminal to stop (`Call.shares?`). The hub keeps nothing
but their number.

The `Roster` is what the hub knows of all this. `Lending` lists what one step of a call can do
to it, and `Call.lending` says that the list is complete. A call with a share sends its window
and waits for the answer, or gives the share up (`Proceeds`).
-/

namespace ShellGateway

namespace Session

/-! ## The roster -/

/-- Which sessions there are and which queue is installed in each, and how many can send on each
queue. -/
structure Roster where
  controls : Serial → Option (Option QueueId)
  senders : QueueId → Option Nat
  nextSerial : Serial
  nextQueue : QueueId

namespace Roster

/-- The queue that is installed in a session. -/
def holds (r : Roster) (s : Serial) : Option QueueId :=
  (r.controls s).join

/-- Changes how many can send on a queue. -/
def recount (r : Roster) (q : QueueId) (f : Nat → Nat) : Roster :=
  { r with senders := fun q' => if q' = q then (r.senders q).map f else r.senders q' }

/-- Changes which queue is installed in a session, if that is there. -/
def assign (r : Roster) (s : Serial) (q : Option QueueId) : Roster :=
  { r with controls := fun s' => if s' = s then (r.controls s).map fun _ => q else r.controls s' }

/-- A session is made, without a queue. -/
def make (r : Roster) : Roster :=
  { r with
    controls := fun s => if s = r.nextSerial then some none else r.controls s
    nextSerial := r.nextSerial + 1 }

/-- A session gives up its queue, and its share in it. -/
def detach (r : Roster) (s : Serial) : Roster :=
  match r.holds s with
  | some q => (r.assign s none).recount q (· - 1)
  | none => r

/-- A fresh queue is set up and installed in a session. -/
def install (r : Roster) (s : Serial) : Roster :=
  { r.assign s (some r.nextQueue) with
    senders := fun q => if q = r.nextQueue then some 1 else r.senders q
    nextQueue := r.nextQueue + 1 }

/-- A count that stays the same. -/
theorem recount_id (r : Roster) (q : QueueId) : r.recount q id = r := by
  show Roster.mk _ _ _ _ = Roster.mk _ _ _ _
  congr 1
  funext q'
  split
  · rename_i hq
    rw [Option.map_id, hq]
    rfl
  · rfl

theorem assign_self {r : Roster} {s : Serial} {q : Option QueueId} (same : r.holds s = q) :
    r.assign s q = r := by
  show Roster.mk _ _ _ _ = Roster.mk _ _ _ _
  congr 1
  funext s'
  split
  · rename_i hs
    subst hs same
    unfold holds
    cases r.controls s' <;> rfl
  · rfl

/-- A session that is there has the queue that it was given. -/
theorem holds_assign {r : Roster} {s s' : Serial} {q? : Option QueueId} {q : QueueId}
    (held : (r.assign s q?).holds s' = some q) :
    s' ≠ s ∧ r.holds s' = some q ∨ s' = s ∧ q? = some q ∧ (r.controls s).isSome := by
  have found : (if s' = s then (r.controls s).map fun _ => q? else r.controls s').join = some q :=
    held
  split at found
  · rename_i hs
    cases there : r.controls s with
    | none =>
      rw [there] at found
      cases found
    | some before =>
      rw [there] at found
      exact .inr ⟨hs, found, rfl⟩
  · rename_i other
    exact .inl ⟨other, found⟩

/-- A session that was just made has no queue. -/
theorem holds_make {r : Roster} {s : Serial} {q : QueueId} (held : r.make.holds s = some q) :
    r.holds s = some q := by
  have found : (if s = r.nextSerial then some none else r.controls s).join = some q := held
  split at found
  · cases found
  · exact found

end Roster

end Session

open Session

namespace Hub

/-- The hub's roster. -/
def roster (h : Hub) : Roster where
  controls s := (h.sessions.get? s).map (·.control)
  senders q := (h.queues.get? q).map (·.senders)
  nextSerial := h.nextSerial
  nextQueue := h.nextQueue

/-! ## The roster after the hub's steps -/

/-- The queue of a session is the one on the roster. -/
theorem holds_roster (h : Hub) (s : Serial) :
    h.roster.holds s = (h.sessions.get? s).bind (·.control) := by
  show ((h.sessions.get? s).map _).join = _
  cases h.sessions.get? s <;> rfl

/-- Changing a session changes at most which queue is installed in it. -/
theorem roster_modify (h : Hub) (s : Serial) (f : Session → Session) :
    (h.modify s f).roster =
      h.roster.assign s ((h.sessions.get? s).bind fun x => (f x).control) := by
  unfold modify
  cases found : h.sessions.get? s with
  | none =>
    refine (Roster.assign_self ?_).symm
    rw [h.holds_roster, found]
    rfl
  | some x =>
    show Roster.mk _ _ _ _ = Roster.mk _ _ _ _
    congr 1
    funext s'
    show ((h.sessions.insert s (f x)).get? s').map _ =
      if s' = s then ((h.sessions.get? s).map _).map _ else _
    rw [Dictionary.get?_insert, found]
    split <;> rfl

/-- A change that has nothing to do with the queue is not seen on the roster. -/
theorem roster_modify_of_control (h : Hub) (s : Serial) {f : Session → Session}
    (same : ∀ x, (f x).control = x.control) : (h.modify s f).roster = h.roster := by
  rw [roster_modify]
  refine Roster.assign_self ?_
  simp only [same]
  exact h.holds_roster s

theorem roster_touch (h : Hub) (s : Serial) : (h.touch s).roster = h.roster :=
  h.roster_modify_of_control s fun _ => rfl

theorem roster_put (h : Hub) (s : Serial) : (h.put s).2.roster = h.roster := by
  unfold put
  split <;> rfl

theorem roster_remove (h : Hub) (id : String) : (h.remove id).2.roster = h.roster := by
  unfold remove
  split <;> rfl

theorem roster_removeStale (h : Hub) (maxIdle : Nat) (id : String) :
    (h.removeStale maxIdle id).2.roster = h.roster := by
  unfold removeStale
  split
  · exact h.roster_remove id
  · rfl

theorem roster_make (h : Hub) (info : Info) (shellHere : Bool) :
    (h.make info shellHere).2.roster = h.roster.make := by
  show Roster.mk _ _ _ _ = Roster.mk _ _ _ _
  congr 1
  funext s
  show ((h.sessions.insert h.nextSerial _).get? s).map _ =
    if s = h.nextSerial then some none else _
  rw [Dictionary.get?_insert]
  split <;> rfl

/-- Changing a queue changes at most how many can send on it. -/
theorem roster_modifyQueue (h : Hub) (q : QueueId) {f : ControlQueue → ControlQueue}
    {k : Nat → Nat} (counts : ∀ queue, (f queue).senders = k queue.senders) :
    (h.modifyQueue q f).roster = h.roster.recount q k := by
  have senders : ∀ q', ((h.modifyQueue q f).queues.get? q').map (·.senders) =
      if q' = q then ((h.queues.get? q).map (·.senders)).map k
      else (h.queues.get? q').map (·.senders) := by
    intro q'
    unfold modifyQueue
    cases found : h.queues.get? q with
    | none =>
      dsimp only
      split
      · rename_i hq
        rw [hq, found]
        rfl
      · rfl
    | some queue =>
      dsimp only
      rw [Dictionary.get?_insert]
      split
      · exact congrArg some (counts queue)
      · rfl
  have frame : Frame (fun x => x) h (h.modifyQueue q f) := h.frame_modifyQueue q f
  show Roster.mk _ _ _ _ = Roster.mk _ _ _ _
  congr 1
  · funext s
    have same := frame.sessions s
    rw [Option.map_id', Option.map_id'] at same
    exact congrArg (Option.map _) same
  · exact funext senders
  · exact frame.nextSerial
  · unfold modifyQueue
    split <;> rfl

/-- A change of what waits in a queue is not seen on the roster. -/
theorem roster_modifyQueue_of_senders (h : Hub) (q : QueueId) {f : ControlQueue → ControlQueue}
    (same : ∀ queue, (f queue).senders = queue.senders) :
    (h.modifyQueue q f).roster = h.roster := by
  rw [h.roster_modifyQueue q (k := id) same, Roster.recount_id]

theorem roster_dropSender (h : Hub) (q : QueueId) :
    (h.dropSender q).roster = h.roster.recount q (· - 1) :=
  h.roster_modifyQueue q fun _ => rfl

theorem roster_trySend (h : Hub) (q : QueueId) (c : Command) :
    (h.trySend q c).roster = h.roster := by
  refine h.roster_modifyQueue_of_senders q fun queue => ?_
  split <;> rfl

theorem roster_receive (h : Hub) (q : QueueId) : (h.receive q).2.roster = h.roster := by
  unfold receive
  split
  · rfl
  · split
    · exact h.roster_modifyQueue_of_senders q fun _ => rfl
    · rfl

theorem roster_abandon (h : Hub) (q : QueueId) : (h.abandon q).roster = h.roster := by
  have dropped : ∀ (tickets : List Ticket) (h : Hub),
      (tickets.foldl (fun h t => h.reply t .dropped) h).roster = h.roster := by
    intro tickets
    induction tickets with
    | nil => exact fun _ => rfl
    | cons t rest ih => exact fun h => ih (h.reply t .dropped)
  unfold abandon
  split
  · rfl
  · exact (dropped _ _).trans (h.roster_modifyQueue_of_senders q fun _ => rfl)

theorem roster_takeControl (h : Hub) (s : Serial) :
    (h.takeControl s).2.roster = h.roster.assign s none := by
  have nothing : ((h.sessions.get? s).bind fun _ => (none : Option QueueId)) = none := by
    cases h.sessions.get? s <;> rfl
  have taken := h.roster_modify s fun x => { x with control := none }
  exact taken.trans (congrArg (h.roster.assign s) nothing)

theorem roster_detach (h : Hub) (s : Serial) : (h.detach s).roster = h.roster.detach s := by
  have taken := h.roster_takeControl s
  have held : (h.takeControl s).1 = h.roster.holds s := (h.holds_roster s).symm
  unfold detach Roster.detach
  rw [← held]
  cases hq : h.takeControl s with
  | mk q? m =>
    rw [hq] at taken held
    cases q? with
    | some q =>
      show (m.dropSender q).roster = _
      rw [roster_dropSender, taken]
    | none => exact taken.trans (Roster.assign_self held.symm)

theorem roster_attach (h : Hub) (s : Serial) :
    (h.attach s).2.roster = (h.roster.detach s).install s := by
  rw [← h.roster_detach s]
  unfold attach
  generalize h.detach s = d
  have installed := d.roster_modify s fun x => { x with control := some d.nextQueue }
  show Roster.mk _ _ _ _ = Roster.mk _ _ _ _
  congr 1
  · show Roster.controls (Hub.roster _) = _
    refine (congrArg Roster.controls installed).trans (funext fun s' => ?_)
    show (if s' = s then ((d.sessions.get? s).map _).map _ else _) =
      if s' = s then ((d.sessions.get? s).map _).map _ else _
    cases d.sessions.get? s <;> rfl
  · funext q
    show ((d.queues.insert d.nextQueue {}).get? q).map _ = if q = d.nextQueue then some 1 else _
    rw [Dictionary.get?_insert]
    split <;> rfl
  · exact congrArg Roster.nextSerial installed

end Hub

namespace Session

/-! ## What a step does to the roster -/

/-- The queue that a call can send on. -/
def Call.shares? : Call → Option QueueId
  | sending _ q _ _ | awaiting _ q _ _ | applied _ q => some q
  | closing _ (.signalling q) _ => some q
  | _ => none

/-- The queue that a call can send on that was let in to send a window. -/
def Call.inFlight? : Call → Option QueueId
  | sending _ q _ _ | awaiting _ q _ _ | applied _ q => some q
  | _ => none

/-- Those who can send are requests for windows, and closings that are about to tell the terminal
to stop. -/
theorem Call.shares?_cases {c : Call} {q : QueueId} (shares : c.shares? = some q) :
    c.inFlight? = some q ∨ ∃ s next, c = .closing s (.signalling q) next := by
  cases c with
  | sending s q' w evict => exact .inl shares
  | awaiting s q' t evict => exact .inl shares
  | applied s q' => exact .inl shares
  | closing s stage next =>
    cases stage with
    | signalling q' =>
      obtain rfl : q' = q := Option.some.inj shares
      exact .inr ⟨s, next, rfl⟩
    | _ => cases shares
  | _ => cases shares

theorem Call.shares_of_inFlight {c : Call} {q : QueueId} (there : c.inFlight? = some q) :
    c.shares? = some q := by
  cases c with
  | sending | awaiting | applied => exact there
  | _ => cases there

theorem Call.shares?_ofNext (n : Next) : (ofNext n).shares? = none := by
  cases n <;> rfl

theorem Call.shares?_closeRemoved (removed : Option Serial) (n n' : Next) :
    (closeRemoved removed n n').shares? = none := by
  cases removed with
  | some s => rfl
  | none => exact shares?_ofNext n'

/-- All that one step of a call can do to who can send on which queue. -/
inductive Lending (r : Roster) : Call → Roster → Call → Prop where
  /-- Nothing. -/
  | quiet {c c' : Call} (same : c'.shares? = c.shares?) : Lending r c r c'
  /-- A session is made. -/
  | made {c c' : Call} (before : c.shares? = none) (after : c'.shares? = none) :
      Lending r c r.make c'
  /-- A session lets a call in that is to send a window. -/
  | joined (s : Serial) (q : QueueId) (w : Window) (evict : Option String)
      (held : r.holds s = some q) :
      Lending r (.sharing s w evict) (r.recount q (· + 1)) (.sending s q w evict)
  /-- A call gives up its share. -/
  | left {c c' : Call} (q : QueueId) (before : c.shares? = some q) (after : c'.shares? = none) :
      Lending r c (r.recount q (· - 1)) c'
  /-- A closing takes a session's queue out, along with the session's share. -/
  | taken (s : Serial) (q : QueueId) (next : Next) (held : r.holds s = some q) :
      Lending r (.closing s .takingControl next) (r.assign s none) (.closing s (.signalling q) next)
  /-- A fresh queue is installed in a session, which gives up the one that it had. -/
  | installed {c c' : Call} (s : Serial) (before : c.shares? = none) (after : c'.shares? = none) :
      Lending r c ((r.detach s).install s) c'

namespace Call

variable {g : Gateway} {e : Event} {h h' : Hub} {c c' : Call}

/-- A step of which nothing is seen on the roster. -/
theorem lending_quiet {p : Hub × Call} (hp : p = (h', c')) (same : p.1.roster = h.roster)
    (shares : p.2.shares? = c.shares?) : Lending h.roster c h'.roster c' := by
  subst hp
  dsimp only at same shares
  rw [same]
  exact .quiet shares

theorem lending_found {p : Hub × Call} {found : Serial → Call} {id : String}
    (shares : ∀ s, (found s).shares? = none) (before : c.shares? = none)
    (hp : (∃ s, h.find? id = some s ∧ p = (h, found s)) ∨
      ∃ why, p = (h, answered (.failed why))) : Lending h.roster c p.1.roster p.2 := by
  obtain ⟨s, -, rfl⟩ | ⟨why, rfl⟩ := hp
  · exact .quiet ((shares s).trans before.symm)
  · exact .quiet before.symm

theorem lending_start (g : Gateway) (h : Hub) (r : Request) :
    Lending h.roster (asked r) (start g h r).1.roster (start g h r).2 := by
  cases r with
  | put s => exact lending_quiet (c := asked (.put s)) rfl (h.roster_put s) rfl
  | touch id | create =>
    unfold start
    dsimp only
    split
    · exact .quiet rfl
    · exact .quiet rfl
  | keepAlive id => exact lending_found (fun _ => rfl) rfl (lookUp_cases h id _)
  | view id => exact lending_found (fun _ => rfl) rfl (lookUp_cases h id _)
  | exec id command => exact lending_found (fun _ => rfl) rfl (lookUp_cases h id _)
  | transfer id => exact lending_found (fun _ => rfl) rfl (lookUp_cases h id _)
  | resize id w => exact lending_found (fun _ => rfl) rfl (lookUpFor_cases h id w _)
  | terminal id w => exact lending_found (fun _ => rfl) rfl (lookUpFor_cases h id w _)
  | takeShell s =>
    refine lending_quiet (c := asked (.takeShell s)) rfl ?_ rfl
    exact h.roster_modify_of_control s fun _ => rfl
  | attachControl s =>
    show Lending h.roster _ (h.attach s).2.roster _
    rw [h.roster_attach]
    exact .installed s rfl rfl
  | _ => exact .quiet rfl

theorem lending_stepClosing {s : Serial} {next : Next} {stage : Closing}
    (hs : stepClosing h s next e stage = some (h', c')) :
    Lending h.roster (closing s stage next) h'.roster c' := by
  have ended := shares?_ofNext next
  cases stage with
  | marking =>
    refine lending_quiet (onGo_eq hs) (h.roster_modify_of_control s fun _ => rfl) ?_
    dsimp only
    split
    · exact ended
    · rfl
  | takingControl =>
    obtain ⟨rfl, rfl⟩ := Prod.mk.inj (onGo_eq hs)
    show Lending h.roster _ (h.takeControl s).2.roster
      (closing s (match (h.sessions.get? s).bind (·.control) with
        | some q => .signalling q
        | none => .releasingTransfer) next)
    rw [h.roster_takeControl, ← h.holds_roster]
    cases held : h.roster.holds s with
    | some q => exact .taken s q next held
    | none =>
      rw [Roster.assign_self held]
      exact .quiet rfl
  | signalling q =>
    obtain ⟨rfl, rfl⟩ := Prod.mk.inj (onGo_eq hs)
    rw [Hub.roster_dropSender, Hub.roster_trySend]
    exact .left q rfl rfl
  | releasingTransfer =>
    simp only [stepClosing] at hs
    split at hs
    · cases e with
      | released failed =>
        exact lending_quiet (Option.some.inj hs) (h.roster_modify_of_control s fun _ => rfl) rfl
      | _ => cases hs
    · exact lending_quiet (onGo_eq hs) rfl rfl
  | takingShell =>
    refine lending_quiet (onGo_eq hs) (h.roster_modify_of_control s fun _ => rfl) ?_
    dsimp only
    split <;> rfl
  | releasingShell =>
    cases e with
    | released failed =>
      exact lending_quiet (Option.some.inj hs) (h.roster_modify_of_control s fun _ => rfl) rfl
    | _ => cases hs
  | releasingTransport =>
    cases e with
    | released failed =>
      exact lending_quiet (Option.some.inj hs) (h.roster_modify_of_control s fun _ => rfl) ended
    | _ => cases hs

theorem shares?_resizeFailed (h : Hub) (q : QueueId) (evict : Option String) (why : Failure) :
    (resizeFailed h q evict why).2.shares? = none := by
  unfold resizeFailed
  cases evict with
  | none => rfl
  | some id =>
    dsimp only
    split <;> rfl

/-- A call whose window was not passed on gives up its share. -/
theorem lending_resizeFailed {q : QueueId} (shares : c.shares? = some q) {evict : Option String}
    {why : Failure} (hp : resizeFailed h q evict why = (h', c')) :
    Lending h.roster c h'.roster c' := by
  have after := shares?_resizeFailed h q evict why
  have dropped : (resizeFailed h q evict why).1.roster = h.roster.recount q (· - 1) := by
    unfold resizeFailed
    cases evict with
    | none => exact h.roster_dropSender q
    | some id => exact h.roster_dropSender q
  rw [hp] at after dropped
  rw [dropped]
  exact .left q shares after

theorem lending_send {s : Serial} {q : QueueId} {w : Window} {evict : Option String}
    (hs : send h s q w evict = some (h', c')) :
    Lending h.roster (sending s q w evict) h'.roster c' := by
  unfold send at hs
  split at hs
  · exact lending_resizeFailed rfl (Option.some.inj hs)
  · split at hs
    · exact lending_resizeFailed rfl (Option.some.inj hs)
    · split at hs
      · exact lending_quiet (Option.some.inj hs) (Hub.roster_trySend _ q _) rfl
      · cases hs

theorem lending_await {s : Serial} {q : QueueId} {ticket : Ticket} {evict : Option String}
    (hs : await h s q ticket evict = some (h', c')) :
    Lending h.roster (awaiting s q ticket evict) h'.roster c' := by
  unfold await at hs
  split at hs
  · exact lending_quiet (Option.some.inj hs) rfl rfl
  · exact lending_resizeFailed rfl (Option.some.inj hs)
  · exact lending_resizeFailed rfl (Option.some.inj hs)
  · cases hs
  · cases hs

/-- A terminal that goes on or has ended has no share. -/
theorem roster_bridged {m : Hub} {id : String} {s : Serial} {q : Option QueueId}
    {task : TerminalTask} (hb : bridged m id s q task = (h', c')) :
    h'.roster = m.roster ∧ c'.shares? = none := by
  unfold bridged at hb
  split at hb
  · cases hb
    exact ⟨rfl, rfl⟩
  · cases q with
    | none =>
      cases hb
      exact ⟨rfl, rfl⟩
    | some q =>
      cases hb
      exact ⟨m.roster_abandon q, rfl⟩

theorem lending_stepTerminal {id : String} {s : Serial} {q : Option QueueId} {task : TerminalTask}
    (hs : stepTerminal h id s q task e = some (h', c')) :
    Lending h.roster (bridging id s q task) h'.roster c' := by
  have quiet : ∀ {m q' task'}, m.roster = h.roster → bridged m id s q' task' = (h', c') →
      Lending h.roster (bridging id s q task) h'.roster c' := by
    intro m q' task' same hb
    obtain ⟨kept, shares⟩ := roster_bridged hb
    rw [kept, same]
    exact .quiet shares
  cases e with
  | terminal met =>
    cases met with
    | attached =>
      obtain ⟨task', -, hb⟩ := Option.bind_eq_some_iff.mp hs
      obtain ⟨kept, shares⟩ := roster_bridged (Option.some.inj hb)
      have attached : h'.roster = (h.attach s).2.roster := kept
      rw [attached, h.roster_attach]
      exact .installed s rfl shares
    | input chunk fault =>
      obtain ⟨task', -, hb⟩ := Option.bind_eq_some_iff.mp hs
      exact quiet (h.roster_touch s) (Option.some.inj hb)
    -- these two come through the queue only
    | command _ _ | queueEnd => cases hs
    | _ =>
      obtain ⟨task', -, hb⟩ := Option.bind_eq_some_iff.mp hs
      exact quiet rfl (Option.some.inj hb)
  | control fault =>
    obtain ⟨queue, rfl, hs⟩ := Option.bind_eq_some_iff.mp hs
    have received := h.roster_receive queue
    cases hr : h.receive queue with
    | mk r m =>
      rw [hr] at hs received
      cases r with
      | nothingYet => cases hs
      | ended =>
        obtain ⟨task', -, hb⟩ := Option.bind_eq_some_iff.mp hs
        exact quiet received (Option.some.inj hb)
      | command command =>
        cases command with
        | close =>
          obtain ⟨task', -, hb⟩ := Option.bind_eq_some_iff.mp hs
          exact quiet received (Option.some.inj hb)
        | resize ticket w =>
          obtain ⟨task', -, hb⟩ := Option.bind_eq_some_iff.mp hs
          have replied : ∀ r, (m.reply ticket r).roster = h.roster := fun _ => received
          exact quiet (replied _) (Option.some.inj hb)
  | _ => cases hs

/-- **Every step does one of the listed things to the roster.** -/
theorem lending (hs : c.step g e h = some (h', c')) : Lending h.roster c h'.roster c' := by
  cases c with
  | asked r =>
    have lending := lending_start g h r
    rw [onGo_eq hs] at lending
    exact lending
  | connecting client target login term =>
    have made := onGo_eq hs
    unfold connect at made
    split at made
    · cases made
      exact .quiet rfl
    · obtain ⟨rfl, rfl⟩ := Prod.mk.inj made
      show Lending h.roster _ (h.make _ true).2.roster _
      rw [h.roster_make]
      exact .made rfl rfl
  | registering s =>
    exact lending_quiet (onGo_eq hs) (h.roster_put s) (shares?_closeRemoved _ _ _)
  | touching s a => exact lending_quiet (onGo_eq hs) (h.roster_touch s) rfl
  | viewing s => exact lending_quiet (onGo_eq hs) rfl rfl
  | beginning s u =>
    have begun := onGo_eq hs
    unfold begin at begun
    dsimp only at begun
    split at begun
    · exact lending_quiet begun (h.roster_touch s) rfl
    · exact lending_quiet begun (h.roster_touch s) rfl
  | underway s u =>
    obtain ⟨rfl, a, rfl⟩ := step_underway hs
    exact .quiet rfl
  | removing id next absent =>
    exact lending_quiet (onGo_eq hs) (h.roster_remove id) (shares?_closeRemoved _ _ _)
  | closing s stage next => exact lending_stepClosing hs
  | sweeping maxIdle stale evicted =>
    have swept := onGo_eq hs
    cases stale with
    | nil => exact lending_quiet swept rfl rfl
    | cons id rest =>
      exact lending_quiet swept (h.roster_removeStale maxIdle id) (shares?_closeRemoved _ _ _)
  | sharing s w evict =>
    have hp := onGo_eq hs
    unfold Hub.shareControl at hp
    cases held : (h.sessions.get? s).bind (·.control) with
    | none =>
      rw [held] at hp
      exact lending_quiet hp rfl rfl
    | some q =>
      rw [held] at hp
      obtain ⟨rfl, rfl⟩ := Prod.mk.inj hp
      rw [h.roster_modifyQueue q (k := (· + 1)) fun _ => rfl]
      exact .joined s q w evict ((h.holds_roster s).trans held)
  | sending s q w evict => exact lending_send (Option.ite_none_right_eq_some.mp hs).2
  | awaiting s q ticket evict => exact lending_await (Option.ite_none_right_eq_some.mp hs).2
  | applied s q =>
    obtain ⟨rfl, rfl⟩ := Prod.mk.inj (onGo_eq hs)
    rw [Hub.roster_dropSender, Hub.roster_touch]
    exact .left q rfl rfl
  | takingShell id s w =>
    refine lending_quiet (onGo_eq hs) (h.roster_modify_of_control s fun _ => rfl) ?_
    unfold takeShellFor
    dsimp only
    split <;> rfl
  | attending id s w => exact lending_quiet (onGo_eq hs) (h.roster_touch s) rfl
  | bridging id s q task => exact lending_stepTerminal hs
  | answered a => cases hs

/-- A closing takes the queue of its session. -/
theorem step_takingControl {s : Serial} {q : QueueId} {next : Next}
    (held : (h.sessions.get? s).bind (·.control) = some q)
    (hs : (closing s .takingControl next).step g .go h = some (h', c')) :
    h' = (h.takeControl s).2 ∧ c' = closing s (.signalling q) next := by
  have taken : h.takeControl s = (some q, (h.takeControl s).2) := by
    rw [← held]
    rfl
  have stepped : (closing s .takingControl next).step g .go h =
      some ((h.takeControl s).2, closing s (.signalling q) next) := by
    simp only [step, stepClosing, if_true]
    rw [taken]
  obtain ⟨rfl, rfl⟩ := Prod.mk.inj (Option.some.inj (hs.symm.trans stepped))
  exact ⟨rfl, rfl⟩

/-- How a call goes on that can send on a queue. -/
inductive Proceeds (q : QueueId) : Call → Call → Prop where
  /-- It has sent its window, and waits for the answer. -/
  | sent (s : Serial) (w : Window) (t : Ticket) (evict : Option String) :
      Proceeds q (sending s q w evict) (awaiting s q t evict)
  /-- Its window was passed on. -/
  | passed (s : Serial) (t : Ticket) (evict : Option String) :
      Proceeds q (awaiting s q t evict) (applied s q)
  /-- It gives up its share. -/
  | leaves {c c' : Call} (before : c.shares? = some q) (after : c'.shares? = none) : Proceeds q c c'

theorem proceeds_send {s : Serial} {q : QueueId} {w : Window} {evict : Option String}
    (hs : send h s q w evict = some (h', c')) : Proceeds q (sending s q w evict) c' := by
  have failed : some (resizeFailed h q evict terminalGone) = some (h', c') →
      Proceeds q (sending s q w evict) c' := by
    intro hp
    have after := shares?_resizeFailed h q evict terminalGone
    rw [Option.some.inj hp] at after
    exact .leaves rfl after
  unfold send at hs
  split at hs
  · exact failed hs
  · split at hs
    · exact failed hs
    · split at hs
      · cases hs
        exact .sent s w _ evict
      · cases hs

theorem proceeds_await {s : Serial} {q : QueueId} {t : Ticket} {evict : Option String}
    (hs : await h s q t evict = some (h', c')) : Proceeds q (awaiting s q t evict) c' := by
  have failed : ∀ {why}, some (resizeFailed h q evict why) = some (h', c') →
      Proceeds q (awaiting s q t evict) c' := by
    intro why hp
    have after := shares?_resizeFailed h q evict why
    rw [Option.some.inj hp] at after
    exact .leaves rfl after
  unfold await at hs
  split at hs
  · cases hs
    exact .passed s t evict
  · exact failed hs
  · exact failed hs
  · cases hs
  · cases hs

/-- A call that can send on a queue sends its window, waits for the answer and leaves. -/
theorem proceeds (hs : c.step g e h = some (h', c')) {q : QueueId} (shares : c.shares? = some q) :
    Proceeds q c c' := by
  cases c with
  | sending s q' w evict =>
    cases shares
    exact proceeds_send (Option.ite_none_right_eq_some.mp hs).2
  | awaiting s q' t evict =>
    cases shares
    exact proceeds_await (Option.ite_none_right_eq_some.mp hs).2
  | applied s q' =>
    cases onGo_eq hs
    exact .leaves shares rfl
  | closing s stage next =>
    cases stage with
    | signalling q' =>
      cases onGo_eq hs
      exact .leaves shares rfl
    | _ => cases shares
  | _ => cases shares

/-- A call that waits for an answer after a step has just sent its window. -/
theorem eq_sending_of_awaiting {s : Serial} {q : QueueId} {t : Ticket} {evict : Option String}
    (hs : c.step g e h = some (h', awaiting s q t evict)) : ∃ w, c = sending s q w evict := by
  have lending := lending hs
  generalize h.roster = r, h'.roster = r' at lending
  cases lending with
  | quiet same =>
    cases proceeds hs same.symm with
    | sent s w => exact ⟨w, rfl⟩
    | leaves before after => cases after
  | made before after | left q before after | installed s before after => cases after

end Call

end Session

end ShellGateway
