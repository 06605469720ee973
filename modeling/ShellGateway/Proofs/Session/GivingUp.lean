import ShellGateway.Proofs.Session.Ledger
import ShellGateway.Proofs.Session.Resizing
import ShellGateway.Proofs.Session.Sweeping

/-!
# Which session is given up

A terminal gives its session up when it has ended, and a request for a window does when the
terminal has gone. Both have looked the session up under an id long before, and both give
up by that id: they take out whatever is registered under it by then, and close that.

So what they close is the session that they looked up, if the id was not edited in
between. If another session was put under the id since, that is the one that is taken out
and closed (`successor_given_up`). Other ids are left alone in either case.

`gives_up` says which session it is for every schedule, by the edits between the look-up and
the removal.
-/

namespace ShellGateway.Session

variable {g : Gateway} {u t : System} {moves : List Move} {c : CallId} {id : String} {s : Serial}

/-! ## The course of such a call -/

/-- The id that a request may have to give up. -/
def Request.mayGiveUp? : Request → Option String
  | .terminal id _ | .resize id _ => some id
  | _ => none

/-- Where a call can stand that has found session `s` under the id, until it returns. -/
inductive Call.Charged (id : String) (s : Serial) : Call → Prop where
  | takingShell (w : Window) : Charged id s (takingShell id s w)
  | attending (w : Window) : Charged id s (attending id s w)
  | bridging (q : Option QueueId) (task : TerminalTask) : Charged id s (bridging id s q task)
  | sharing (w : Window) : Charged id s (sharing s w (some id))
  | sending (q : QueueId) (w : Window) : Charged id s (sending s q w (some id))
  | awaiting (q : QueueId) (ticket : Ticket) : Charged id s (awaiting s q ticket (some id))
  | applied (q : QueueId) : Charged id s (applied s q)
  | removing (a : Answer) : Charged id s (giveUp id a)

namespace Call

variable {e : Event} {h h' : Hub} {call call' : Call}

/-- An id is taken out in one step, and what was registered under it is to be closed. -/
theorem step_removing {next absent : Next}
    (hs : (removing id next absent).step g e h = some (h', call')) :
    e = .go ∧ h' = (h.remove id).2 ∧ call' = closeRemoved (h.find? id) next absent := by
  have hp : ((h.remove id).2, closeRemoved (h.remove id).1 next absent) = (h', call') :=
    onGo_eq hs
  rw [h.remove_fst] at hp
  obtain ⟨rfl, rfl⟩ := Prod.mk.inj hp
  exact ⟨(Option.ite_none_right_eq_some.mp hs).1, rfl, rfl⟩

/-- Whoever gives up after a failure gives up the id. -/
theorem charged_resizeFailed (h : Hub) (q : QueueId) (id : String) (s : Serial) (why : Failure) :
    Charged id s (resizeFailed h q (some id) why).2 ∨
      ∃ a, (resizeFailed h q (some id) why).2 = answered a := by
  unfold resizeFailed
  dsimp only
  split
  · exact .inl (.removing _)
  · exact .inr ⟨_, rfl⟩

/-- A charged call goes on, returns, or takes the id out. -/
theorem Charged.step (charged : Charged id s call) (hs : call.step g e h = some (h', call')) :
    Charged id s call' ∨ (∃ a, call' = answered a) ∨
      ∃ a, call = giveUp id a ∧ call' = closeRemoved (h.find? id) (.answer a) (.answer a) := by
  have failed : ∀ {q why}, some (resizeFailed h q (some id) why) = some (h', call') →
      Charged id s call' ∨ ∃ a, call' = answered a := by
    intro q why hp
    have fails := charged_resizeFailed h q id s why
    rw [Option.some.inj hp] at fails
    exact fails
  have returned : (Charged id s call' ∨ ∃ a, call' = answered a) →
      Charged id s call' ∨ (∃ a, call' = answered a) ∨
        ∃ a, call = giveUp id a ∧ call' = closeRemoved (h.find? id) (.answer a) (.answer a) :=
    fun h => h.elim .inl fun answered => .inr (.inl answered)
  cases charged with
  | takingShell w =>
    cases piece hs with
    | boarded => exact .inl (.attending w)
    | refused => exact .inr (.inl ⟨_, rfl⟩)
    | plain keeps plain => cases plain
    | opened info plain => cases plain
    | aboard _ _ keeps aboard => cases aboard
    | ashore _ _ how keeps aboard => cases aboard
  | attending w =>
    obtain ⟨-, rfl⟩ := Prod.mk.inj (onGo_eq hs)
    exact .inl (.bridging none _)
  | bridging q task =>
    obtain ⟨m, q', met, task', -, hb, -⟩ := stepTerminal_cases hs
    obtain rfl | ⟨how, rfl⟩ := bridged_cases hb
    · exact .inl (.bridging q' task')
    · exact .inl (.removing _)
  | sharing w =>
    obtain ⟨q, rfl⟩ | ⟨-, rfl⟩ := share_cases hs
    · exact .inl (.sending q w)
    · exact .inr (.inl ⟨_, rfl⟩)
  | sending q w =>
    have sent := (Option.ite_none_right_eq_some.mp hs).2
    unfold send at sent
    split at sent
    · exact returned (failed sent)
    · split at sent
      · exact returned (failed sent)
      · split at sent
        · cases sent
          exact .inl (.awaiting q _)
        · cases sent
  | awaiting q ticket =>
    have taken := (Option.ite_none_right_eq_some.mp hs).2
    unfold await at taken
    split at taken
    · cases taken
      exact .inl (.applied q)
    · exact returned (failed taken)
    · exact returned (failed taken)
    · cases taken
    · cases taken
  | applied q =>
    obtain ⟨-, rfl⟩ := Prod.mk.inj (onGo_eq hs)
    exact .inr (.inl ⟨_, rfl⟩)
  | removing a => exact .inr (.inr ⟨a, rfl, (step_removing hs).2.2⟩)

/-- A charged call edits the registry only to take the id out. -/
theorem Charged.edit? (charged : Charged id s call) (h : Hub) :
    call.edit? h = none ∨ ∃ a, call = giveUp id a := by
  cases charged with
  | removing a => exact .inr ⟨a, rfl⟩
  | _ => exact .inl rfl

/-- The call has taken out what it had to, or has returned. -/
inductive Parted : Call → Prop where
  | closing (r : Serial) (stage : Closing) (a : Answer) : Parted (closing r stage (.answer a))
  | answered (a : Answer) : Parted (answered a)

theorem Parted.step (parted : Parted call) (hs : call.step g e h = some (h', call')) :
    Parted call' := by
  cases parted with
  | closing r stage a =>
    obtain rfl | ⟨stage', -, rfl⟩ := closing_cases hs
    · exact .answered a
    · exact .closing r stage' a
  | answered a => cases hs

/-- A charged call stays charged, or has parted. -/
theorem Charged.goes_on (charged : Charged id s call) (hs : call.step g e h = some (h', call')) :
    Charged id s call' ∨ Parted call' := by
  obtain charged | ⟨a, rfl⟩ | ⟨a, -, rfl⟩ := charged.step hs
  · exact .inl charged
  · exact .inr (.answered a)
  · cases h.find? id with
    | some r => exact .inr (.closing r .marking a)
    | none => exact .inr (.answered a)

/-- A call that may have to give up an id looks it up first. -/
theorem start_mayGiveUp {r : Request} (mayGiveUp : r.mayGiveUp? = some id)
    (hs : (asked r).step g e h = some (h', call')) :
    h' = h ∧ ((∃ s, h.find? id = some s ∧ Charged id s call') ∨ ∃ a, call' = answered a) := by
  have looked := onGo_eq hs
  cases r with
  | terminal id' w =>
    cases mayGiveUp
    obtain ⟨s, found, hp⟩ | ⟨why, hp⟩ := lookUpFor_cases h id w fun s => takingShell id s w
    · cases hp.symm.trans looked
      exact ⟨rfl, .inl ⟨s, found, .takingShell w⟩⟩
    · cases hp.symm.trans looked
      exact ⟨rfl, .inr ⟨_, rfl⟩⟩
  | resize id' w =>
    cases mayGiveUp
    obtain ⟨s, found, hp⟩ | ⟨why, hp⟩ := lookUpFor_cases h id w fun s => sharing s w (some id)
    · cases hp.symm.trans looked
      exact ⟨rfl, .inl ⟨s, found, .sharing w⟩⟩
    · cases hp.symm.trans looked
      exact ⟨rfl, .inr ⟨_, rfl⟩⟩
  | _ => cases mayGiveUp

/-- Where a call stands that may have to give up an id. -/
inductive MayGiveUp (id : String) (r : Request) : Call → Prop where
  | asked : MayGiveUp id r (asked r)
  | charged {call : Call} (s : Serial) (charged : Charged id s call) : MayGiveUp id r call
  | parted {call : Call} (parted : Parted call) : MayGiveUp id r call

theorem MayGiveUp.step {r : Request} (mayGiveUp : r.mayGiveUp? = some id)
    (stands : MayGiveUp id r call) (hs : call.step g e h = some (h', call')) :
    MayGiveUp id r call' := by
  cases stands with
  | asked =>
    obtain ⟨-, ⟨s, -, charged⟩ | ⟨a, rfl⟩⟩ := start_mayGiveUp mayGiveUp hs
    · exact .charged s charged
    · exact .parted (.answered a)
  | charged s charged => exact (charged.goes_on hs).elim (.charged s) .parted
  | parted parted => exact .parted (parted.step hs)

/-- Such a call edits the registry only to take the id out. -/
theorem MayGiveUp.edit {r : Request} (mayGiveUp : r.mayGiveUp? = some id)
    (stands : MayGiveUp id r call) (edits : call.edit? h ≠ none) : ∃ a, call = giveUp id a := by
  cases stands with
  | asked =>
    cases r with
    | terminal | resize => exact absurd rfl edits
    | _ => cases mayGiveUp
  | charged s charged => exact (charged.edit? h).resolve_left edits
  | parted parted => cases parted <;> exact absurd rfl edits

/-- Such a call comes to close a session by taking it out. -/
theorem MayGiveUp.closes {r : Request} (mayGiveUp : r.mayGiveUp? = some id)
    (stands : MayGiveUp id r call) {s : Serial} {stage : Closing} {next : Next}
    (before : ¬ ∃ stage next, call = closing s stage next)
    (hs : call.step g e h = some (h', closing s stage next)) :
    ∃ a, call = giveUp id a ∧ h.find? id = some s := by
  cases stands with
  | asked =>
    obtain ⟨-, ⟨s', -, charged⟩ | ⟨a, ended⟩⟩ := start_mayGiveUp mayGiveUp hs
    · cases charged
    · cases ended
  | charged s' charged =>
    obtain charged' | ⟨a, ended⟩ | ⟨a, rfl, removed⟩ := charged.step hs
    · cases charged'
    · cases ended
    · refine ⟨a, rfl, ?_⟩
      cases found : h.find? id with
      | none =>
        rw [found] at removed
        cases removed
      | some r =>
        rw [found] at removed
        cases removed
        rfl
  | parted parted =>
    cases parted with
    | closing r stage' a =>
      obtain ended | ⟨stage'', -, same⟩ := closing_cases hs
      · cases ended
      · cases same
        exact absurd ⟨_, _, rfl⟩ before
    | answered a => cases hs

end Call

/-- Where such a call stands along a schedule. -/
theorem System.mayGiveUp_lasts {r : Request} (hc : u.calls[c]? = some (.asked r))
    (mayGiveUp : r.mayGiveUp? = some id) (ran : u.run g moves = some t) {call : Call}
    (there : t.calls[c]? = some call) : Call.MayGiveUp id r call := by
  obtain ⟨call', there', stands⟩ := System.call_lasts
    (fun stands hs => Call.MayGiveUp.step mayGiveUp stands hs) ran hc .asked
  exact Option.some.inj (there'.symm.trans there) ▸ stands

/-! ## Giving up -/

/-- Call `c` gives up an id: it has looked a session up under it in one move, and takes out
the id in a later one, after the moves `between`. -/
structure GivingUp (g : Gateway) (u : System) (moves : List Move) (c : CallId) (id : String) where
  session : Serial
  answer : Answer
  lookup : System.Turn g u moves
  removal : System.Turn g u moves
  between : List Move
  later : removal.past = lookup.past ++ lookup.move :: between
  looks : ∃ e, lookup.move = .step c e
  found : lookup.before.hub.find? id = some session
  same : lookup.after.hub = lookup.before.hub
  removes : removal.move = .step c .go
  stood : removal.before.calls[c]? = some (.giveUp id answer)

namespace GivingUp

/-- The edits between the look-up and the removal. -/
def since (k : GivingUp g u moves c id) : List Edit :=
  k.lookup.after.trail System.edit g k.between

/-- What is taken out is the last session that was put under the id since the look-up; if
the id was not edited, it is the session that was looked up. -/
theorem takes_iff (k : GivingUp g u moves c id) (r : Serial) :
    k.removal.before.hub.find? id = some r ↔
      LastPut k.since id r ∨ r = k.session ∧ ∀ e ∈ k.since, e.id ≠ id := by
  have ledger := find?_iff_lastPut_since (System.Turn.run_between k.later) id r
  rw [k.same, k.found] at ledger
  exact ledger.trans (or_congr_right (and_congr_left' ⟨fun h => (Option.some.inj h).symm,
    fun h => congrArg some h.symm⟩))

/-- The id is taken out, and the call goes on to close what was registered. -/
theorem after_eq (k : GivingUp g u moves c id) :
    k.removal.after = k.removal.before.stepped c (k.removal.before.hub.remove id).2
      (.closeRemoved (k.removal.before.hub.find? id) (.answer k.answer) (.answer k.answer)) := by
  have moved := k.removal.moved
  rw [k.removes] at moved
  obtain ⟨call, h', call', hc, hstep, hafter⟩ := System.move_step_eq_some moved
  obtain rfl := Option.some.inj (hc.symm.trans k.stood)
  obtain ⟨-, rfl, rfl⟩ := Call.step_removing hstep
  exact hafter

/-- **Every removal by such a call is one of an id that it has looked up before.** -/
theorem exists_givingUp {r : Request} (hc : u.calls[c]? = some (.asked r))
    (mayGiveUp : r.mayGiveUp? = some id) (y : System.Turn g u moves) {e : Event}
    (hy : y.move = .step c e) {id' : String} {next absent : Next}
    (stood : y.before.calls[c]? = some (.removing id' next absent)) :
    id' = id ∧ ∃ k : GivingUp g u moves c id, k.removal = y := by
  obtain ⟨x, e', call, h', call', hx, hcall, rfl, hstep, hafter, -⟩ := System.exists_step
    (P := (· = .asked r)) y.reached hc rfl stood (by simp)
  have stands : x.after.calls[c]? = some call' := by
    rw [hafter]
    exact System.calls_stepped hcall h' call'
  obtain ⟨rfl, ⟨s, found, charged⟩ | ⟨a, rfl⟩⟩ := Call.start_mayGiveUp mayGiveUp hstep
  · obtain ⟨now, hnow, position⟩ := System.call_lasts
      (P := fun call => Call.Charged id s call ∨ Call.Parted call)
      (fun hp hs => hp.elim (·.goes_on hs) fun parted => .inr (parted.step hs))
      (x.run_future y.reached) stands (.inl charged)
    obtain rfl := Option.some.inj (stood.symm.trans hnow)
    rcases position with charged | parted
    · cases charged with
      | removing a =>
        have moved := y.moved
        rw [hy] at moved
        obtain ⟨now', h'', call'', hnow', hstep', -⟩ := System.move_step_eq_some moved
        obtain rfl := Option.some.inj (hnow'.symm.trans stood)
        obtain ⟨rfl, -⟩ := Call.step_removing hstep'
        have same : x.after.hub = x.before.hub := by rw [hafter]; rfl
        exact ⟨rfl, {
          session := s
          answer := a
          lookup := x.extend y.split
          removal := y
          between := x.future
          later := x.split
          looks := ⟨e', hx⟩
          found := found
          same := same
          removes := hy
          stood := stood }, rfl⟩
    · cases parted
  · obtain ⟨now, hnow, rfl⟩ := System.call_lasts (P := (· = .answered a))
      (fun hp hs => by cases hp; cases hs) (x.run_future y.reached) stands rfl
    cases stood.symm.trans hnow

/-- What is taken out is closed by the time the call returns. -/
theorem closed_of_answer (k : GivingUp g u moves c id) (ran : u.run g moves = some t)
    (numbered : u.hub.Numbered) {r : Serial}
    (registered : k.removal.before.hub.find? id = some r) {l : Life}
    (hl : k.removal.before.hub.life? r = some l) (answered : (t.answer? c).isSome) :
    ∃ l', t.hub.life? r = some l' ∧ l'.closed = true := by
  have after := k.after_eq
  rw [registered] at after
  have marking : k.removal.after.calls[c]? = some (.closing r .marking (.answer k.answer)) := by
    rw [after]
    exact System.calls_stepped k.stood _ _
  have there : k.removal.after.hub.life? r = some l := by
    rw [after]
    exact (k.removal.before.hub.remove_life? id r).trans hl
  obtain ⟨a, ha⟩ := Option.isSome_iff_exists.mp answered
  obtain ⟨last, hlast, hanswer⟩ := Option.bind_eq_some_iff.mp ha
  -- it marks the session on the way
  obtain ⟨z, e, call, h', call', -, -, rfl, hstep, hafter, -⟩ := System.exists_step
    (P := (· = .closing r .marking (.answer k.answer))) (k.removal.run_future ran) marking rfl hlast
    (by rintro rfl; cases hanswer)
  obtain ⟨-, rfl, -⟩ := Call.step_marking hstep
  have numbered' : k.removal.after.hub.Numbered := System.numbered k.removal.run_past numbered
  obtain ⟨x, hx, -⟩ := Hub.life?_eq_some there
  obtain ⟨still, l', hl', -⟩ := System.life_lasts z.reached there (numbered' r x hx)
  have marked : z.after.hub.life? r = some { l' with closed := true } := by
    have life := z.before.hub.life?_markClosed r r
    rw [if_pos rfl, hl'] at life
    rw [hafter]
    exact life
  have numbered'' : z.after.hub.Numbered := System.numbered z.run_past numbered'
  obtain ⟨y, hy, -⟩ := Hub.life?_eq_some marked
  obtain ⟨-, l'', hl'', -, closed⟩ :=
    System.life_lasts (z.run_future (k.removal.run_future ran)) marked (numbered'' r y hy)
  exact ⟨l'', hl'', closed rfl⟩

/-- Whatever such a call changes in the registry, it does by giving the id up. -/
theorem of_edit {r : Request} (hc : u.calls[c]? = some (.asked r))
    (mayGiveUp : r.mayGiveUp? = some id) (z : System.Turn g u moves) {e : Event}
    (hz : z.move = .step c e) {i : String}
    (changed : z.after.hub.find? i ≠ z.before.hub.find? i) :
    i = id ∧ z.after.hub.find? id = none ∧ ∃ k : GivingUp g u moves c id, k.removal = z := by
  have moved := z.moved
  rw [hz] at moved
  obtain ⟨call, h', call', hcall, hstep, hafter⟩ := System.move_step_eq_some moved
  rw [hafter] at changed ⊢
  have edits : call.edit? z.before.hub ≠ none := by
    intro none
    have found := (Call.lifeStep hstep).find? i
    rw [none] at found
    exact changed found
  obtain ⟨a, rfl⟩ := (System.mayGiveUp_lasts hc mayGiveUp z.reached hcall).edit mayGiveUp edits
  obtain ⟨-, rfl, -⟩ := Call.step_removing hstep
  have gone := z.before.hub.find?_remove id i
  by_cases hi : i = id
  · rw [if_pos hi, hi] at gone
    obtain ⟨-, given⟩ := exists_givingUp hc mayGiveUp z hz hcall
    exact ⟨hi, gone, given⟩
  · rw [if_neg hi] at gone
    exact absurd gone changed

/-- Whatever such a call closes, it has taken out by giving the id up. -/
theorem of_closing {r : Request} (hc : u.calls[c]? = some (.asked r))
    (mayGiveUp : r.mayGiveUp? = some id) (z : System.Turn g u moves) {s : Serial}
    {stage : Closing} {next : Next} (hz : z.before.calls[c]? = some (.closing s stage next)) :
    ∃ k : GivingUp g u moves c id, k.removal.IsLater z ∧
      k.removal.before.hub.find? id = some s := by
  -- it came to close the session in some step, and that was a removal
  obtain ⟨y, e, call, h', call', hy, hcall, before, hstep, hafter, stage', next', rfl⟩ :=
    System.exists_arrival (P := fun call => ∃ stage next, call = .closing s stage next)
      (by simp) z.reached
      (fun call h => by
        rintro ⟨_, _, rfl⟩
        cases hc.symm.trans h)
      hz ⟨stage, next, rfl⟩
  have stands := System.mayGiveUp_lasts hc mayGiveUp y.reached hcall
  obtain ⟨a, rfl, found⟩ := stands.closes mayGiveUp before hstep
  obtain ⟨-, k, hk⟩ := exists_givingUp hc mayGiveUp (y.extend z.split) hy hcall
  refine ⟨k, ?_, ?_⟩
  · rw [hk]
    exact ⟨y.future, y.split⟩
  · rw [hk]
    exact found

end GivingUp

/-- What call `c`, which may have to give up an id, takes out of the registry and closes along
a schedule that leads from system `u` to system `t`. -/
structure GivesUp (g : Gateway) (u : System) (moves : List Move) (c : CallId) (id : String)
    (t : System) : Prop where
  /-- It changes the registry only by giving the id up. -/
  edits : ∀ z : System.Turn g u moves, ∀ e, z.move = .step c e → ∀ i,
    z.after.hub.find? i ≠ z.before.hub.find? i →
      i = id ∧ z.after.hub.find? id = none ∧ ∃ k : GivingUp g u moves c id, k.removal = z
  /-- It closes no session but one that it has taken out that way. -/
  closes : ∀ z : System.Turn g u moves, ∀ r stage next,
    z.before.calls[c]? = some (.closing r stage next) →
      ∃ k : GivingUp g u moves c id, k.removal.IsLater z ∧
        k.removal.before.hub.find? id = some r
  /-- What it takes out is the last session that was put under the id since it looked; if the
  id was not edited since, it is the session that it looked up. -/
  takes_iff : ∀ k : GivingUp g u moves c id, ∀ r, k.removal.before.hub.find? id = some r ↔
    LastPut k.since id r ∨ r = k.session ∧ ∀ e ∈ k.since, e.id ≠ id
  /-- By the time it returns, that session is closed, whichever it is. -/
  closed : ∀ k : GivingUp g u moves c id, ∀ r, k.removal.before.hub.find? id = some r →
    (k.removal.before.hub.life? r).isSome → (t.answer? c).isSome →
      ∃ x, t.hub.sessions.get? r = some x ∧ x.closed = true
  /-- So it spares all others exactly if none of them was put under the id and left there. -/
  spares_iff : ∀ k : GivingUp g u moves c id,
    (∀ r, k.removal.before.hub.find? id = some r → r = k.session) ↔
      ∀ r, LastPut k.since id r → r = k.session

/-- **A call that gives up an id takes out and closes what was put there last**, whether or
not that is the session it looked up. -/
theorem gives_up {r : Request} (ran : u.run g moves = some t)
    (hc : u.calls[c]? = some (.asked r)) (mayGiveUp : r.mayGiveUp? = some id)
    (numbered : u.hub.Numbered) : GivesUp g u moves c id t := by
  constructor
  case edits => exact fun z e hz i => GivingUp.of_edit hc mayGiveUp z hz
  case closes => exact fun z r' stage next => GivingUp.of_closing hc mayGiveUp z
  case takes_iff => exact GivingUp.takes_iff
  case closed =>
    intro k r' registered there answered
    obtain ⟨l, hl⟩ := Option.isSome_iff_exists.mp there
    obtain ⟨l', hl', closed⟩ := k.closed_of_answer ran numbered registered hl answered
    obtain ⟨x, hx, rfl⟩ := Hub.life?_eq_some hl'
    exact ⟨x, hx, closed⟩
  case spares_iff =>
    intro k
    refine forall_congr' fun r' => ?_
    rw [k.takes_iff]
    constructor
    · exact fun own lastPut => own (.inl lastPut)
    · exact fun own taken => taken.elim own And.left

/-! ## Sessions that came in between -/

/-- A terminal relays what session 0 says, when somebody asks for another window. -/
def beforeWindow : List Move :=
  [.make (someInfo "a") true, .make (someInfo "a") true, .start (.put 0), .step 0 .go,
    .start (.terminal "a" { width := 80, height := 24 }), .step 1 .go, .step 1 .go, .step 1 .go,
    .step 1 (.terminal (.requested none)), .step 1 (.terminal (.message .success none)),
    .step 1 (.terminal (.requested none)), .step 1 (.terminal (.message .success none)),
    .step 1 (.terminal .attached), .start (.resize "a" { width := 100, height := 40 })]

/-- The terminal ends and gives session 0 up, and session 1 is put under the id. By then the
window cannot be sent, and that gives session 1 up. -/
def successorOfWindow : List Move :=
  [.step 2 .go, .step 2 .go, .step 1 (.terminal .brokeDown), .step 1 .go, .step 1 .go, .step 1 .go,
    .step 1 .go, .step 1 (.released false), .step 1 .go, .step 1 (.released false),
    .start (.put 1), .step 3 .go, .step 2 .go, .step 2 .go, .step 2 .go, .step 2 .go,
    .step 2 (.released false), .step 2 .go, .step 2 (.released false), .step 2 (.released false)]

theorem gives_up_successorOfWindow : ∃ u t,
    System.initial.run strandedGateway beforeWindow = some u ∧
      u.run strandedGateway successorOfWindow = some t ∧
        u.calls[2]? = some (.asked (.resize "a" { width := 100, height := 40 })) ∧
          u.hub.Numbered ∧ t.answer? 2 = some (.failed terminalGone) ∧ t.IsClosed 1 ∧
            GivesUp strandedGateway u successorOfWindow 2 "a" t := by
  have reached : System.initial.run strandedGateway beforeWindow = some _ := rfl
  have numbered := System.numbered reached System.numbered_initial
  exact ⟨_, _, rfl, rfl, rfl, numbered, rfl, ⟨_, rfl, rfl, rfl⟩, gives_up rfl rfl rfl numbered⟩

/-- A terminal has the shell of session 0 when session 1 is put under its id. Then the
terminal breaks down. -/
def successorOfTerminal : List Move :=
  [.make (someInfo "a") true, .make (someInfo "a") true, .start (.put 0), .step 0 .go,
    .start (.terminal "a" { width := 80, height := 24 }), .step 1 .go, .step 1 .go, .step 1 .go,
    .start (.put 1), .step 2 .go, .step 1 (.terminal .brokeDown), .step 1 .go, .step 1 .go,
    .step 1 .go, .step 1 (.released false), .step 1 .go, .step 1 (.released false),
    .step 1 (.released false)]

/-- **A terminal can close a session that it has nothing to do with**, and leave its own
open. -/
theorem successor_given_up : ∃ t,
    System.initial.run strandedGateway successorOfTerminal = some t ∧ t.Finished ∧
      t.answer? 2 = some (.session (some 0)) ∧
        t.answer? 1 = some (.failed (.session "terminal bridge panicked")) ∧
          t.hub.find? "a" = none ∧ t.IsClosed 1 ∧
            ∃ x, t.hub.sessions.get? 0 = some x ∧ x.closed = false :=
  ⟨_, rfl, by decide, rfl, rfl, by decide, ⟨_, rfl, rfl, rfl⟩, _, rfl, rfl⟩

end ShellGateway.Session
