import ShellGateway.Proofs.Session.Conduct
import ShellGateway.Proofs.Session.Sweeping

/-!
# What a touch keeps

A touch looks an id up, and records activity for the session that it found in a later
step. A sweep looks at a session again in the very step that takes it out. So the
session that a touch has found is safe once the activity is recorded: no sweep takes it
out before it has been idle for too long since then.

Before that it is as safe as it was without the touch. It may have been idle for too
long already, and then a sweep that comes between the two steps takes it out and closes
it. The touch does not look again: it records activity for the closed session, and
answers that the session is there (`touch_overtaken`).

`touch_keeps` says both, for every schedule and every sweep.
-/

namespace ShellGateway.Session

variable {g : Gateway} {u t v : System} {moves : List Move} {s : Serial}

/-! ## Time -/

/-- No session is idle since later than now. -/
def System.Timely (t : System) : Prop :=
  ∀ s k, t.hub.conduct? s = some k → k.idleSince ≤ t.hub.clock

theorem System.timely_initial : initial.Timely :=
  fun _ _ hk => by cases hk

/-- A step leaves a session idle since when it was, or since now. -/
theorem Stirring.idleSince {e : Event} {h h' : Hub} {c : Call} (stirring : Stirring e h c h')
    {k' : Conduct} (hk' : h'.conduct? s = some k') :
    k'.idleSince = h.clock ∨ ∃ k, h.conduct? s = some k ∧ k'.idleSince = k.idleSince := by
  cases stirring with
  | calm calm => exact .inr ⟨k', (calm.conduct s).symm.trans hk', rfl⟩
  | made info shellHere =>
    unfold Hub.conduct? Hub.make at hk'
    dsimp only at hk'
    rw [Dictionary.get?_insert] at hk'
    split at hk'
    · cases hk'
      exact .inl rfl
    · exact .inr ⟨k', hk', rfl⟩
  | roused r rouses calm =>
    rw [calm.conduct, h.conduct?_touch] at hk'
    split at hk'
    · obtain ⟨k, -, rfl⟩ := Option.map_eq_some_iff.mp hk'
      exact .inl rfl
    · exact .inr ⟨k', hk', rfl⟩
  | detached r next =>
    rw [h.conduct?_takeControl] at hk'
    split at hk'
    · rename_i same
      obtain ⟨k, hk, rfl⟩ := Option.map_eq_some_iff.mp hk'
      exact .inr ⟨k, same ▸ hk, rfl⟩
    · exact .inr ⟨k', hk', rfl⟩
  | installed r installs calm =>
    rw [calm.conduct, h.conduct?_attach] at hk'
    split at hk'
    · rename_i same
      obtain ⟨k, hk, rfl⟩ := Option.map_eq_some_iff.mp hk'
      exact .inr ⟨k, same ▸ hk, rfl⟩
    · exact .inr ⟨k', hk', rfl⟩

/-- The clock does not go back. -/
theorem System.clock_move {m : Move} (hm : u.move g m = some t) : u.hub.clock ≤ t.hub.clock := by
  cases m with
  | start r =>
    cases hm
    exact Int.le_refl _
  | step c e =>
    obtain ⟨call, h', call', -, hstep, rfl⟩ := System.move_step_eq_some hm
    exact Int.le_of_eq (Call.stirring hstep).clock.symm
  | make info shellHere =>
    cases hm
    exact Int.le_refl _
  | wait time =>
    cases hm
    exact Int.le_add_of_nonneg_right (Int.natCast_nonneg time)

theorem System.clock_le (ran : u.run g moves = some t) : u.hub.clock ≤ t.hub.clock := by
  induction moves generalizing u with
  | nil =>
    cases ran
    exact Int.le_refl _
  | cons m rest ih =>
    obtain ⟨v, hm, hrest⟩ := System.run_cons_eq_some ran
    exact Int.le_trans (System.clock_move hm) (ih hrest)

/-- A move leaves a session idle since when it was, or since when the move was made. -/
theorem System.idleSince_move {m : Move} (hm : u.move g m = some t) {k' : Conduct}
    (hk' : t.hub.conduct? s = some k') :
    k'.idleSince = u.hub.clock ∨
      ∃ k, u.hub.conduct? s = some k ∧ k'.idleSince = k.idleSince := by
  cases m with
  | start | wait =>
    cases hm
    exact .inr ⟨k', hk', rfl⟩
  | step c e =>
    obtain ⟨call, h', call', -, hstep, rfl⟩ := System.move_step_eq_some hm
    exact (Call.stirring hstep).idleSince hk'
  | make info shellHere =>
    cases hm
    exact (Stirring.made (e := .go) (c := .answered .done) info shellHere).idleSince hk'

theorem System.Timely.run (timely : u.Timely) (ran : u.run g moves = some t) : t.Timely := by
  induction moves generalizing u with
  | nil =>
    cases ran
    exact timely
  | cons m rest ih =>
    obtain ⟨v, hm, hrest⟩ := System.run_cons_eq_some ran
    refine ih (fun s k' hk' => ?_) hrest
    have passed := System.clock_move hm
    rcases System.idleSince_move hm hk' with now | ⟨k, hk, same⟩
    · exact now ▸ passed
    · exact same ▸ Int.le_trans (timely s k hk) passed

/-- Along a schedule, a session is idle since when it was, or since later than when the
schedule began. -/
theorem System.idleSince_run (ran : u.run g moves = some t) {k' : Conduct}
    (hk' : t.hub.conduct? s = some k') :
    u.hub.clock ≤ k'.idleSince ∨
      ∃ k, u.hub.conduct? s = some k ∧ k'.idleSince = k.idleSince := by
  induction moves generalizing u with
  | nil =>
    cases ran
    exact .inr ⟨k', hk', rfl⟩
  | cons m rest ih =>
    obtain ⟨v, hm, hrest⟩ := System.run_cons_eq_some ran
    rcases ih hrest with since | ⟨k, hk, same⟩
    · exact .inl (Int.le_trans (System.clock_move hm) since)
    · rw [same]
      rcases System.idleSince_move hm hk with now | before
      · exact .inl (Int.le_of_eq now.symm)
      · exact .inr before

/-- So it is never idle since earlier than before. -/
theorem System.idleSince_le (ran : u.run g moves = some t) (timely : u.Timely) {x y : Session}
    (hx : u.hub.sessions.get? s = some x) (hy : t.hub.sessions.get? s = some y) :
    x.idleSince ≤ y.idleSince := by
  have before : u.hub.conduct? s = some x.conduct := congrArg (Option.map Session.conduct) hx
  have after : t.hub.conduct? s = some y.conduct := congrArg (Option.map Session.conduct) hy
  rcases System.idleSince_run ran after with since | ⟨k, hk, same⟩
  · exact Int.le_trans (timely s _ before) since
  · cases before.symm.trans hk
    exact Int.le_of_eq same.symm

/-! ## Activity -/

/-- The session whose activity a move records. -/
def System.rouses? (t : System) : Move → Option Serial
  | .step c e => t.calls[c]? >>= Call.rouses? e
  | _ => none

/-- A move that records activity makes the session active as of then. -/
theorem System.active_move {m : Move} (hm : u.move g m = some t) (rouses : u.rouses? m = some s) :
    t.hub.conduct? s =
      (u.hub.conduct? s).map fun k => ⟨u.hub.clock, u.hub.clock, k.control⟩ := by
  cases m with
  | step c e =>
    obtain ⟨call, h', call', hcall, hstep, rfl⟩ := System.move_step_eq_some hm
    have own : call.rouses? e = some s := by
      rw [System.rouses?, hcall] at rouses
      exact rouses
    exact ((Call.calm_of_rouses hstep own).conduct s).trans
      ((u.hub.conduct?_touch s s).trans (if_pos rfl))
  | _ => cases rouses

/-! ## Evictions -/

/-- A move in which a sweep takes session `s` out of the registry. -/
structure Eviction (g : Gateway) (u : System) (moves : List Move) (s : Serial)
    extends System.Turn g u moves where
  sweeper : CallId
  event : Event
  maxIdle : Nat
  id : String
  rest : List String
  evicted : Nat
  isStep : move = .step sweeper event
  stood : before.calls[sweeper]? = some (.sweeping maxIdle (id :: rest) evicted)
  taken : (before.hub.removeStale maxIdle id).1 = some s

/-- The session has been idle for too long in that very step. -/
theorem Eviction.stale (z : Eviction g u moves s) :
    ∃ x, z.before.hub.sessions.get? s = some x ∧
      (z.maxIdle : Int) < z.before.hub.clock - x.idleSince := by
  have taken := z.taken
  rcases z.before.hub.removeStale_cases z.maxIdle z.id with
    ⟨-, passed⟩ | ⟨-, r, x, -, hx, hidle, removed⟩
  · rw [passed] at taken
    cases taken
  · rw [removed] at taken
    cases taken
    exact ⟨x, hx, hidle⟩

/-- A sweep that takes a session out finds that more time than it allows has passed since any
activity of the session was recorded. -/
theorem Eviction.since_active (z : Eviction g u moves s) {y : System.Turn g u moves}
    (rouses : y.before.rouses? y.move = some s) (later : y.IsLater z.toTurn) :
    (z.maxIdle : Int) < z.before.hub.clock - y.before.hub.clock := by
  obtain ⟨x, hx, idle⟩ := z.stale
  obtain ⟨between, hbetween⟩ := later
  have conduct : z.before.hub.conduct? s = some x.conduct := congrArg (Option.map Session.conduct) hx
  have since : y.before.hub.clock ≤ x.idleSince := by
    rcases System.idleSince_run (System.Turn.run_between hbetween) conduct with
      since | ⟨k, hk, same⟩
    · exact Int.le_trans (System.clock_move y.moved) since
    · rw [System.active_move y.moved rouses] at hk
      obtain ⟨k', -, rfl⟩ := Option.map_eq_some_iff.mp hk
      exact Int.le_of_eq same.symm
  exact Int.lt_of_lt_of_le idle (Int.sub_le_sub_left since _)

/-! ## Touches -/

/-- The id that a request touches, and what it answers once it has. -/
def Request.touches? : Request → Option (String × Answer)
  | .touch id => some (id, .flag true)
  | .keepAlive id => some (id, .done)
  | _ => none

/-- What a touch of an id by call `c` consists of: the move in which it finds a session,
and the later one in which it records activity. -/
structure Touch (g : Gateway) (u : System) (moves : List Move) (c : CallId) (id : String)
    (a : Answer) where
  session : Serial
  lookup : System.Turn g u moves
  update : System.Turn g u moves
  later : lookup.IsLater update
  looks : lookup.move = .step c .go
  found : lookup.before.hub.find? id = some session
  records : update.move = .step c .go
  stood : update.before.calls[c]? = some (.touching session a)
  recorded : update.after.hub = update.before.hub.touch session

/-- A touch that finds nothing ends at once, with another answer. -/
theorem Request.start_touches {r : Request} {id : String} {a : Answer} {h h' : Hub} {e : Event}
    {c' : Call} (touches : r.touches? = some (id, a))
    (hs : (Call.asked r).step g e h = some (h', c')) :
    e = .go ∧ ((∃ s, h.find? id = some s ∧ c' = .touching s a) ∨
      ∃ b, b ≠ a ∧ c' = .answered b) := by
  refine ⟨(Option.ite_none_right_eq_some.mp hs).1, ?_⟩
  have looked := Call.onGo_eq hs
  cases r with
  | touch id =>
    cases touches
    unfold Call.start at looked
    dsimp only at looked
    split at looked
    · rename_i s found
      cases looked
      exact .inl ⟨s, found, rfl⟩
    · cases looked
      exact .inr ⟨_, by simp, rfl⟩
  | keepAlive id =>
    cases touches
    obtain ⟨s, found, hp⟩ | ⟨why, hp⟩ := Call.lookUp_cases h id fun s => .touching s .done
    · cases hp.symm.trans looked
      exact .inl ⟨s, found, rfl⟩
    · cases hp.symm.trans looked
      exact .inr ⟨_, by simp, rfl⟩
  | _ => cases touches

/-- **A touch that answers that the session is there has found it, and has recorded
activity since.** -/
theorem Touch.exists_touch (ran : u.run g moves = some t) {c : CallId} {r : Request} {id : String}
    {a : Answer} (hc : u.calls[c]? = some (.asked r)) (touches : r.touches? = some (id, a))
    (answered : t.answer? c = some a) : Nonempty (Touch g u moves c id a) := by
  obtain ⟨last, hlast, hanswer⟩ := Option.bind_eq_some_iff.mp answered
  have ended : ∀ call : Call, call.answer? = none → last ≠ call := by
    rintro call none rfl
    cases none.symm.trans hanswer
  obtain ⟨x, e, call, h', call', hx, hcall, rfl, hstep, hafter, -⟩ := System.exists_step
    (P := (· = .asked r)) ran hc rfl hlast (ended _ rfl)
  obtain ⟨rfl, ⟨s, found, rfl⟩ | ⟨b, other, rfl⟩⟩ := Request.start_touches touches hstep
  · have touching : x.after.calls[c]? = some (.touching s a) := by
      rw [hafter]
      exact System.calls_stepped hcall _ _
    obtain ⟨y, e, call, h'', call'', hy, hcall', rfl, hstep', hafter', -⟩ := System.exists_step
      (P := (· = .touching s a)) (x.run_future ran) touching rfl hlast (ended _ rfl)
    obtain rfl : e = .go := (Option.ite_none_right_eq_some.mp hstep').1
    obtain ⟨rfl, -⟩ := Prod.mk.inj (Call.onGo_eq hstep')
    exact ⟨{
      session := s
      lookup := x
      update := y.prepend x.run_past x.split_after
      later := ⟨y.past, (List.append_cons x.past x.move y.past).symm⟩
      looks := hx
      found := found
      records := hy
      stood := hcall'
      recorded := congrArg System.hub hafter' }⟩
  · -- it has answered otherwise
    obtain ⟨call, hcall', rfl⟩ := System.call_lasts (P := (· = .answered b))
      (fun hp hs => by cases hp; cases hs) (x.run_future ran)
      (hafter ▸ System.calls_stepped hcall h' (.answered b)) rfl
    cases hlast.symm.trans hcall'
    exact absurd (Option.some.inj hanswer) other

namespace Touch

variable {c : CallId} {id : String} {a : Answer}

/-- The session is active as of when the activity was recorded. -/
theorem active (k : Touch g u moves c id a) :
    k.update.after.hub.sessions.get? k.session =
      (k.update.before.hub.sessions.get? k.session).map
        (·.touched k.update.before.hub.clock) := by
  rw [k.recorded]
  unfold Hub.touch
  rw [Hub.get?_modify, if_pos rfl]

/-- A sweep that takes the session out later finds it idle for too long since then. -/
theorem afterwards (k : Touch g u moves c id a) (z : Eviction g u moves k.session)
    (later : k.update.IsLater z.toTurn) :
    (z.maxIdle : Int) < z.before.hub.clock - k.update.before.hub.clock := by
  have rouses : k.update.before.rouses? k.update.move = some k.session := by
    rw [k.records, System.rouses?, k.stood]
    rfl
  exact z.since_active rouses later

/-- A sweep that takes it out after the look-up finds it idle for too long since when it
was idle by then. -/
theorem meanwhile (k : Touch g u moves c id a) (timely : u.Timely)
    (z : Eviction g u moves k.session) (later : k.lookup.IsLater z.toTurn) {x : Session}
    (hx : k.lookup.before.hub.sessions.get? k.session = some x) :
    (z.maxIdle : Int) < z.before.hub.clock - x.idleSince := by
  obtain ⟨y, hy, hidle⟩ := z.stale
  obtain ⟨between, hbetween⟩ := later
  have ran : k.lookup.before.run g (k.lookup.move :: between) = some z.before := by
    rw [System.run, k.lookup.moved]
    exact System.Turn.run_between hbetween
  have since := System.idleSince_le ran (timely.run k.lookup.reached) hx hy
  exact Int.lt_of_lt_of_le hidle (Int.sub_le_sub_left since _)

/-- A sweep does not take its step in the move that records the activity. -/
theorem update_or_later (k : Touch g u moves c id a) (z : Eviction g u moves k.session)
    (notBefore : ¬ z.toTurn.IsLater k.update) : k.update.IsLater z.toTurn := by
  rcases k.update.compare z.toTurn with same | later | earlier
  · have reached := z.reached
    rw [same, k.update.reached] at reached
    have before := Option.some.inj reached
    have stood := z.stood
    have moved : z.move = k.update.move := by
      have split := z.split.symm.trans k.update.split
      rw [same] at split
      exact (List.cons.inj (List.append_cancel_left split)).1
    rw [z.isStep, k.records] at moved
    rw [(Move.step.inj moved).1, ← before, k.stood] at stood
    cases stood
  · exact later
  · exact absurd earlier notBefore

end Touch

/-- How a touch of an id by call `c`, which answers `a`, fares along a schedule that leads
from system `u` to system `t`, whatever sweeps come in between. -/
structure TouchKeeps (g : Gateway) (u : System) (moves : List Move) (c : CallId) (id : String)
    (a : Answer) (t : System) : Prop where
  /-- If it answers that the session is there, it has found it in one step, and recorded
  activity in a later one. -/
  answers : t.answer? c = some a → Nonempty (Touch g u moves c id a)
  /-- That makes the session active as of then. -/
  active : ∀ k : Touch g u moves c id a,
    k.update.after.hub.sessions.get? k.session =
      (k.update.before.hub.sessions.get? k.session).map (·.touched k.update.before.hub.clock)
  /-- From then on, no sweep takes the session out before more time has passed than it
  allows. -/
  afterwards : ∀ k : Touch g u moves c id a, ∀ z : Eviction g u moves k.session,
    k.update.IsLater z.toTurn →
      (z.maxIdle : Int) < z.before.hub.clock - k.update.before.hub.clock
  /-- Between the two steps, a sweep takes it out only if it was idle for too long all
  along. -/
  meanwhile : ∀ k : Touch g u moves c id a, ∀ z : Eviction g u moves k.session,
    k.lookup.IsLater z.toTurn → ∀ x, k.lookup.before.hub.sessions.get? k.session = some x →
      (z.maxIdle : Int) < z.before.hub.clock - x.idleSince
  /-- So a session that would not have been idle for too long when the activity is recorded
  is still there by then, as far as this sweep goes. -/
  in_time : ∀ k : Touch g u moves c id a, ∀ z : Eviction g u moves k.session,
    k.lookup.IsLater z.toTurn → ∀ x, k.lookup.before.hub.sessions.get? k.session = some x →
      k.update.before.hub.clock - x.idleSince ≤ z.maxIdle → k.update.IsLater z.toTurn
  /-- From the look-up on the session is kept for as long as sweeps allow since the activity
  was recorded, exactly if no sweep comes in between and takes it out. -/
  kept_iff : ∀ k : Touch g u moves c id a,
    (∀ z : Eviction g u moves k.session, k.lookup.IsLater z.toTurn →
      (z.maxIdle : Int) < z.before.hub.clock - k.update.before.hub.clock) ↔
    ∀ z : Eviction g u moves k.session, k.lookup.IsLater z.toTurn → ¬ z.toTurn.IsLater k.update

/-- **A touch keeps the session that it has found from when it records activity on, and
no earlier**, however it interleaves with sweeps and other calls. -/
theorem touch_keeps (ran : u.run g moves = some t) (timely : u.Timely) {c : CallId} {r : Request}
    {id : String} {a : Answer} (hc : u.calls[c]? = some (.asked r))
    (touches : r.touches? = some (id, a)) : TouchKeeps g u moves c id a t := by
  -- what comes before the update is no later by the clock
  have earlier : ∀ (k : Touch g u moves c id a) (z : Eviction g u moves k.session),
      z.toTurn.IsLater k.update → z.before.hub.clock ≤ k.update.before.hub.clock := by
    intro k z ⟨between, hbetween⟩
    exact Int.le_trans (System.clock_move z.moved)
      (System.clock_le (System.Turn.run_between hbetween))
  refine ⟨Touch.exists_touch ran hc touches, Touch.active, Touch.afterwards,
    fun k z later x hx => k.meanwhile timely z later hx, ?_, ?_⟩
  · intro k z later x hx young
    refine k.update_or_later z fun before => ?_
    have stale := k.meanwhile timely z later hx
    have passed := Int.sub_le_sub_right (earlier k z before) x.idleSince
    exact absurd (Int.lt_of_lt_of_le stale passed) (Int.not_lt.mpr young)
  · intro k
    constructor
    · intro kept z later before
      have lasted := kept z later
      have passed := Int.sub_nonpos_of_le (earlier k z before)
      exact absurd (Int.lt_of_lt_of_le lasted passed) (Int.not_lt.mpr (Int.natCast_nonneg _))
    · intro none z later
      exact k.afterwards z (k.update_or_later z (none z later))

/-! ## A touch that is overtaken -/

/-- Session `a` has been idle for 20 when somebody asks to touch it, and somebody else for
a sweep of those over 10. -/
def beforeTouch : List Move :=
  [.make (someInfo "a") true, .start (.put 0), .step 0 .go, .wait 20, .start (.touch "a"),
    .start (.sweep 10)]

/-- The touch looks the session up, the sweep takes it out. -/
def overtaking : List Move :=
  [.step 1 .go, .step 2 .go, .step 2 .go]

/-- The sweep closes the session and returns; then the touch records activity. -/
def afterTouch : List Move :=
  [.step 2 .go, .step 2 .go, .step 2 (.released false), .step 2 .go, .step 2 (.released false),
    .step 2 (.released false), .step 2 .go, .step 1 .go]

theorem touch_keeps_overtaking : ∃ u t,
    System.initial.run strandedGateway beforeTouch = some u ∧
      u.run strandedGateway (overtaking ++ afterTouch) = some t ∧ u.Timely ∧
        u.calls[1]? = some (.asked (.touch "a")) ∧ t.answer? 1 = some (.flag true) ∧
          TouchKeeps strandedGateway u (overtaking ++ afterTouch) 1 "a" (.flag true) t := by
  have reached : System.initial.run strandedGateway beforeTouch = some _ := rfl
  have timely := System.timely_initial.run reached
  exact ⟨_, _, rfl, rfl, timely, rfl, rfl, touch_keeps rfl timely rfl rfl⟩

/-- **A touch can answer that a session is there which a sweep has taken out since it
looked, and closed.** -/
theorem touch_overtaken : ∃ u v t,
    System.initial.run strandedGateway beforeTouch = some u ∧ u.hub.find? "a" = some 0 ∧
      u.run strandedGateway overtaking = some v ∧
        v.calls[1]? = some (.touching 0 (.flag true)) ∧ v.hub.find? "a" = none ∧
          v.run strandedGateway afterTouch = some t ∧ t.answer? 1 = some (.flag true) ∧
            t.answer? 2 = some (.count 1) ∧ t.hub.find? "a" = none ∧ t.IsClosed 0 :=
  ⟨_, _, _, rfl, by decide, rfl, rfl, by decide, rfl, rfl, rfl, by decide, ⟨_, rfl, rfl, rfl⟩⟩

end ShellGateway.Session
