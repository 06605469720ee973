import Mathlib.Data.List.Induction
import ShellGateway.Daemon.Closer

/-!
# One close and one kill

A channel's closer is called by tasks that know nothing of each other: some only kill the
program, the others want the channel closed. The calls come in any order and any number, and
each can be overtaken by the others between any two of its steps. A task that is stopped
takes no more steps, and its call stands where it stood.

Two things keep them apart. The first close to take a step finds the closer unmarked
(`System.MarkedBy`); it alone goes on to send anything. The program is there until somebody
takes it; whoever finds it gone has nothing to kill. So the program is killed once, by the
time anybody who wanted it killed returns, and after that come the end of output and the close,
once each, whether or not they can be sent (`System.EndsOnce`).

`Stands` says where a call can stand by what it was asked to do, and what has happened by
then. `Kept` says so of all calls at once, and is kept by each step (`Kept.move`).
-/

namespace ShellGateway.Daemon.Closer

/-! ## Runs -/

namespace System

variable {s t u : System} {schedule : List (Nat × Bool)} {i j : Nat} {failed : Bool}

/-- A step is a step of one call. -/
theorem move_eq_some (h : s.move i failed = some t) :
    ∃ call closer call', s.calls[i]? = some call ∧
      s.closer.step failed call = some (closer, call') ∧ t = ⟨closer, s.calls.set i call'⟩ := by
  obtain ⟨call, hcall, h⟩ := Option.bind_eq_some_iff.mp h
  obtain ⟨⟨closer, call'⟩, hstep, h⟩ := Option.bind_eq_some_iff.mp h
  exact ⟨call, closer, call', hcall, hstep, (Option.some.inj h).symm⟩

/-- The last step of a schedule is taken where the rest of it leads. -/
theorem run_concat (s : System) (schedule : List (Nat × Bool)) (i : Nat) (failed : Bool) :
    s.run (schedule ++ [(i, failed)]) = s.run schedule >>= fun t => t.move i failed := by
  induction schedule generalizing s with
  | nil =>
    show s.move i failed >>= (some ·) = s.move i failed
    cases s.move i failed <;> rfl
  | cons first rest ih =>
    show (s.move first.1 first.2 >>= fun t => t.run (rest ++ [(i, failed)])) =
      (s.move first.1 first.2 >>= fun t => t.run rest) >>= fun t => t.move i failed
    cases s.move first.1 first.2 with
    | none => rfl
    | some t => exact ih t

/-- Along a schedule call `i` finds the closer unmarked, and marks it. -/
def MarkedBy (s : System) (schedule : List (Nat × Bool)) (i : Nat) : Prop :=
  ∃ past failed future t u, schedule = past ++ (i, failed) :: future ∧ s.run past = some t ∧
    t.move i failed = some u ∧ t.closer.marked = false ∧ u.closer.marked = true

theorem not_markedBy_nil (s : System) (i : Nat) : ¬ s.MarkedBy [] i := by
  rintro ⟨past, failed, future, t, u, split, -⟩
  cases past <;> cases split

/-- Whoever marks the closer along a schedule does so before its last step or in it. -/
theorem markedBy_concat (ran : s.run schedule = some t) (moved : t.move j failed = some u) :
    s.MarkedBy (schedule ++ [(j, failed)]) i ↔
      s.MarkedBy schedule i ∨ (i = j ∧ t.closer.marked = false ∧ u.closer.marked = true) := by
  constructor
  · rintro ⟨past, failed', future, t', u', split, ran', moved', before, after⟩
    rcases future.eq_nil_or_concat with rfl | ⟨future, last, rfl⟩
    · -- the marking is the last step
      obtain ⟨rfl, same⟩ := List.append_inj' split rfl
      obtain ⟨rfl, rfl⟩ := Prod.mk.inj (List.cons.inj same).1
      obtain rfl := Option.some.inj (ran'.symm.trans ran)
      obtain rfl := Option.some.inj (moved'.symm.trans moved)
      exact .inr ⟨rfl, before, after⟩
    · rw [List.concat_eq_append, ← List.cons_append, ← List.append_assoc] at split
      obtain ⟨rfl, -⟩ := List.append_inj' split rfl
      exact .inl ⟨past, failed', future, t', u', rfl, ran', moved', before, after⟩
  · rintro (⟨past, failed', future, t', u', rfl, marking⟩ | ⟨rfl, before, after⟩)
    · refine ⟨past, failed', future ++ [(j, failed)], t', u', ?_, marking⟩
      rw [List.append_assoc, List.cons_append]
    · exact ⟨schedule, failed, [], t, u, rfl, ran, moved, before, after⟩

end System

/-! ## Where calls stand -/

/-- What is sent in the end: the end of output and the close, with one kill before each. -/
def lastWords (eofFailed closeFailed : Bool) : List (EndMessage × Nat) :=
  [(.eof eofFailed, 1), (.close closeFailed, 1)]

/-- Where a call stands, by what it was asked to do and whether it has marked the closer. -/
inductive Stands (c : Closer) : Call → Prop → Call → Prop where
  | killing {marks : Prop} (other : ¬ marks) : Stands c .kill marks .kill
  | closing {marks : Prop} (other : ¬ marks) : Stands c .close marks .close
  /-- A kill has returned. -/
  | killed {marks : Prop} (other : ¬ marks) (gone : c.hasProgram = false) :
      Stands c .kill marks (.returned false)
  /-- A close has left the channel to another. -/
  | late {marks : Prop} (other : ¬ marks) (marked : c.marked = true) :
      Stands c .close marks (.returned false)
  | first {marks : Prop} (own : marks) (unsent : c.sent = []) : Stands c .close marks .killThenEnd
  | eofDue {marks : Prop} (own : marks) (gone : c.hasProgram = false) (unsent : c.sent = []) :
      Stands c .close marks .sendEof
  | closeDue {marks : Prop} (own : marks) (gone : c.hasProgram = false) (eofFailed : Bool)
      (sent : c.sent = [(.eof eofFailed, 1)]) : Stands c .close marks .sendClose
  | ended {marks : Prop} (own : marks) (gone : c.hasProgram = false) (eofFailed closeFailed : Bool)
      (sent : c.sent = lastWords eofFailed closeFailed) : Stands c .close marks (.returned true)

/-- How many steps a call has left at most. -/
def Call.left : Call → Nat
  | .close => 4
  | .killThenEnd => 3
  | .sendEof => 2
  | .sendClose | .kill => 1
  | .returned _ => 0

section

variable {c c' : Closer} {asked call call' : Call} {marks : Prop} {failed : Bool}

/-- A call stands where it stood while others take their steps, if what it goes by stays. -/
theorem Stands.carry (stands : Stands c asked marks call) {marks' : Prop} (same : marks' ↔ marks)
    (gone : c.hasProgram = false → c'.hasProgram = false)
    (marked : c.marked = true → c'.marked = true) (sent : marks → c'.sent = c.sent) :
    Stands c' asked marks' call := by
  cases stands with
  | killing other => exact .killing (mt same.mp other)
  | closing other => exact .closing (mt same.mp other)
  | killed other taken => exact .killed (mt same.mp other) (gone taken)
  | late other before => exact .late (mt same.mp other) (marked before)
  | first own unsent => exact .first (same.mpr own) ((sent own).trans unsent)
  | eofDue own taken unsent => exact .eofDue (same.mpr own) (gone taken) ((sent own).trans unsent)
  | closeDue own taken f told =>
    exact .closeDue (same.mpr own) (gone taken) f ((sent own).trans told)
  | ended own taken f f' told => exact .ended (same.mpr own) (gone taken) f f' ((sent own).trans told)

theorem takeProgram_marked (c : Closer) : c.takeProgram.marked = c.marked := by
  unfold takeProgram
  split <;> rfl

theorem takeProgram_sent (c : Closer) : c.takeProgram.sent = c.sent := by
  unfold takeProgram
  split <;> rfl

/-- Whoever takes the program leaves none. -/
theorem takeProgram_gone (c : Closer) : c.takeProgram.hasProgram = false := by
  unfold takeProgram
  split
  · rfl
  · rename_i gone
    exact Bool.eq_false_iff.mpr gone

/-- The program was killed once if it is gone, and not at all before. -/
def KillsCounted (c : Closer) : Prop :=
  c.kills = (!c.hasProgram).toNat

theorem KillsCounted.takeProgram (counted : c.KillsCounted) : c.takeProgram.KillsCounted := by
  unfold KillsCounted Closer.takeProgram at *
  split
  · rename_i there
    rw [there] at counted
    rw [counted]
    rfl
  · exact counted

/-- **What a call's own step does**: the call goes on to the next of its positions, what was
taken or marked stays so, and only the call that has marked the closer sends anything. -/
theorem Stands.step (stands : Stands c asked marks call) (counted : c.KillsCounted)
    (unmarked : c.marked = false → c.sent = [])
    (hs : c.step failed call = some (c', call')) :
    c'.KillsCounted ∧ (c.hasProgram = false → c'.hasProgram = false) ∧
      (c.marked = true → c'.marked = true) ∧ (¬ marks → c'.sent = c.sent) ∧
      call'.left < call.left ∧
      Stands c' asked (marks ∨ c.marked = false ∧ c'.marked = true) call' := by
  -- taking the program marks nothing
  have taking : ¬ (c.marked = false ∧ c.takeProgram.marked = true) := by
    rintro ⟨before, after⟩
    rw [takeProgram_marked, before] at after
    cases after
  cases stands with
  | killing other =>
    cases hs
    refine ⟨counted.takeProgram, fun _ => c.takeProgram_gone, (c.takeProgram_marked ▸ ·),
      fun _ => c.takeProgram_sent, Nat.one_pos, ?_⟩
    exact .killed (fun marks => marks.elim other taking) c.takeProgram_gone
  | closing other =>
    cases hs
    refine ⟨counted, id, fun _ => rfl, fun _ => rfl, ?_⟩
    cases hm : c.marked with
    | true =>
      refine ⟨Nat.zero_lt_succ 3, .late (fun marks => ?_) rfl⟩
      rcases marks with own | ⟨before, -⟩
      · exact other own
      · cases before
    | false => exact ⟨Nat.lt_succ_self 3, .first (.inr ⟨rfl, rfl⟩) (unmarked hm)⟩
  | first first unsent =>
    cases hs
    refine ⟨counted.takeProgram, fun _ => c.takeProgram_gone, (c.takeProgram_marked ▸ ·),
      fun _ => c.takeProgram_sent, Nat.lt_succ_self 2, ?_⟩
    exact .eofDue (.inl first) c.takeProgram_gone (c.takeProgram_sent.trans unsent)
  | eofDue first gone unsent =>
    cases hs
    refine ⟨counted, id, id, fun other => absurd first other, Nat.lt_succ_self 1, ?_⟩
    have killed : c.kills = 1 := by
      rw [counted, gone]
      rfl
    refine .closeDue (.inl first) gone failed ?_
    show c.sent ++ [_] = _
    rw [unsent, killed]
    rfl
  | closeDue first gone f told =>
    cases hs
    refine ⟨counted, id, id, fun other => absurd first other, Nat.one_pos, ?_⟩
    have killed : c.kills = 1 := by
      rw [counted, gone]
      rfl
    refine .ended (.inl first) gone f failed ?_
    show c.sent ++ [_] = _
    rw [told, killed]
    rfl
  | killed | late | ended => cases hs

/-- What has been sent, by where the call stands that has marked the closer. -/
theorem Stands.sent_of_marks (stands : Stands c asked marks call) (own : marks) :
    asked = .close ∧ ∃ eofFailed closeFailed, c.sent <+: lastWords eofFailed closeFailed := by
  cases stands with
  | killing other | closing other | killed other | late other => exact absurd own other
  | first _ unsent | eofDue _ _ unsent =>
    rw [unsent]
    exact ⟨rfl, false, false, List.nil_prefix⟩
  | closeDue _ _ f told =>
    rw [told]
    exact ⟨rfl, f, false, [(.close false, 1)], rfl⟩
  | ended _ _ f f' told =>
    rw [told]
    exact ⟨rfl, f, f', List.prefix_rfl⟩

end

/-! ## All calls at once -/

namespace System

variable {s t : System} {asked : List Call} {schedule : List (Nat × Bool)} {j : Nat} {failed : Bool}

/-- Where all calls stand, given who has marked the closer. -/
structure Kept (asked : List Call) (marks : Nat → Prop) (s : System) : Prop where
  counted : s.closer.KillsCounted
  unmarked : s.closer.marked = false → s.closer.sent = []
  marked_iff : s.closer.marked = true ↔ ∃ i, marks i
  unique : ∀ i j, marks i → marks j → i = j
  placed : ∀ i, marks i → i < asked.length
  stands : ∀ i a, asked[i]? = some a → ∃ call, s.calls[i]? = some call ∧
    Stands s.closer a (marks i) call
  length : s.calls.length = asked.length

/-- At first nobody has taken a step. -/
theorem Kept.start {marks : Nat → Prop} (fresh : ∀ c ∈ asked, c = .kill ∨ c = .close)
    (none : ∀ i, ¬ marks i) : Kept asked marks ⟨{}, asked⟩ where
  counted := rfl
  unmarked _ := rfl
  marked_iff := ⟨nofun, fun ⟨i, hi⟩ => absurd hi (none i)⟩
  unique i _ hi := absurd hi (none i)
  placed i hi := absurd hi (none i)
  stands i a ha := by
    rcases fresh a (List.mem_of_getElem? ha) with rfl | rfl
    · exact ⟨_, ha, .killing (none i)⟩
    · exact ⟨_, ha, .closing (none i)⟩
  length := rfl

/-- Who has marked the closer has left it marked. -/
theorem Kept.not_marks {marks : Nat → Prop} (kept : Kept asked marks s)
    (unmarked : s.closer.marked = false) (i : Nat) : ¬ marks i := by
  intro hi
  have marked := kept.marked_iff.mpr ⟨i, hi⟩
  rw [unmarked] at marked
  cases marked

/-- **Every step keeps the account.** -/
theorem Kept.move {marks marks' : Nat → Prop} (kept : Kept asked marks s)
    (hm : s.move j failed = some t)
    (new : ∀ i, marks' i ↔
      marks i ∨ (i = j ∧ s.closer.marked = false ∧ t.closer.marked = true)) :
    Kept asked marks' t := by
  obtain ⟨call, closer, call', hc, hs, rfl⟩ := move_eq_some hm
  have here : j < s.calls.length := (List.getElem?_eq_some_iff.mp hc).1
  obtain ⟨own, hown⟩ : ∃ a, asked[j]? = some a := ⟨_, List.getElem?_eq_getElem (kept.length ▸ here)⟩
  obtain ⟨call₁, hc₁, stands⟩ := kept.stands j own hown
  obtain rfl := Option.some.inj (hc.symm.trans hc₁)
  obtain ⟨counted, gone, marked, quiet, -, stands'⟩ := stands.step kept.counted kept.unmarked hs
  constructor
  case counted => exact counted
  case length => exact (List.length_set ..).trans kept.length
  case unmarked =>
    intro after
    have before : s.closer.marked = false :=
      Bool.eq_false_iff.mpr fun h => absurd ((marked h).symm.trans after) (by decide)
    exact (quiet (kept.not_marks before j)).trans (kept.unmarked before)
  case marked_iff =>
    constructor
    · intro after
      cases before : s.closer.marked with
      | true =>
        obtain ⟨i, hi⟩ := kept.marked_iff.mp before
        exact ⟨i, (new i).mpr (.inl hi)⟩
      | false => exact ⟨j, (new j).mpr (.inr ⟨rfl, before, after⟩)⟩
    · rintro ⟨i, hi⟩
      rcases (new i).mp hi with old | ⟨-, -, after⟩
      · exact marked (kept.marked_iff.mpr ⟨i, old⟩)
      · exact after
  case unique =>
    intro i i' hi hi'
    rcases (new i).mp hi with old | ⟨rfl, before, -⟩
    · rcases (new i').mp hi' with old' | ⟨-, before, -⟩
      · exact kept.unique i i' old old'
      · exact absurd old (kept.not_marks before i)
    · rcases (new i').mp hi' with old' | ⟨rfl, -⟩
      · exact absurd old' (kept.not_marks before i')
      · rfl
  case placed =>
    intro i hi
    rcases (new i).mp hi with old | ⟨rfl, -⟩
    · exact kept.placed i old
    · exact kept.length ▸ here
  case stands =>
    intro i a ha
    by_cases mover : i = j
    · subst mover
      obtain rfl := Option.some.inj (hown.symm.trans ha)
      refine ⟨call', List.getElem?_set_self here, ?_⟩
      refine stands'.carry ((new i).trans ?_) id id fun _ => rfl
      rw [eq_self, true_and]
    · obtain ⟨other, ho, standing⟩ := kept.stands i a ha
      refine ⟨other, (List.getElem?_set_ne (Ne.symm mover)).trans ho, ?_⟩
      refine standing.carry ((new i).trans ?_) gone marked fun hi => ?_
      · simp [mover]
      · -- the call that has marked the closer is not the one that takes the step
        exact quiet fun hj => mover (kept.unique i j hi hj)

/-- A step is taken from those that the call has left. -/
theorem Kept.left_move {marks : Nat → Prop} (kept : Kept asked marks s)
    (hm : s.move j failed = some t) {i : Nat} {call' : Call} (hc' : t.calls[i]? = some call') :
    ∃ call, s.calls[i]? = some call ∧ call'.left + (if j = i then 1 else 0) ≤ call.left := by
  obtain ⟨call, closer, next, hc, hs, rfl⟩ := move_eq_some hm
  have here : j < s.calls.length := (List.getElem?_eq_some_iff.mp hc).1
  by_cases mover : j = i
  · subst mover
    obtain rfl := Option.some.inj ((List.getElem?_set_self here).symm.trans hc')
    obtain ⟨own, hown⟩ : ∃ a, asked[j]? = some a :=
      ⟨_, List.getElem?_eq_getElem (kept.length ▸ here)⟩
    obtain ⟨call₁, hc₁, stands⟩ := kept.stands j own hown
    obtain rfl := Option.some.inj (hc.symm.trans hc₁)
    have less := (stands.step kept.counted kept.unmarked hs).2.2.2.2.1
    rw [if_pos rfl]
    exact ⟨_, hc, less⟩
  · rw [if_neg mover]
    exact ⟨call', (List.getElem?_set_ne mover).symm.trans hc', Nat.le_refl _⟩

/-- **The account is kept along every schedule**, and no call takes more steps than it has. -/
theorem Kept.run (fresh : ∀ c ∈ asked, c = .kill ∨ c = .close)
    (ran : run ⟨{}, asked⟩ schedule = some s) :
    Kept asked (MarkedBy ⟨{}, asked⟩ schedule) s ∧ ∀ i call, s.calls[i]? = some call →
      schedule.countP (·.1 = i) + call.left ≤ 4 := by
  induction schedule using List.reverseRecOn generalizing s with
  | nil =>
    obtain rfl := Option.some.inj ran
    refine ⟨.start fresh (not_markedBy_nil _), fun i call hc => ?_⟩
    rw [List.countP_nil, Nat.zero_add]
    rcases fresh call (List.mem_of_getElem? hc) with rfl | rfl <;> decide
  | append_singleton past last ih =>
    obtain ⟨j, failed⟩ := last
    rw [run_concat] at ran
    obtain ⟨u, hu, hm⟩ := Option.bind_eq_some_iff.mp ran
    obtain ⟨kept, left⟩ := ih hu
    refine ⟨kept.move hm fun i => markedBy_concat hu hm, fun i call' hc' => ?_⟩
    obtain ⟨call, hc, less⟩ := kept.left_move hm hc'
    have before := left i call hc
    rw [List.countP_append, List.countP_singleton]
    simp only [decide_eq_true_eq] at *
    omega

/-! ## Every schedule -/

/-- How calls on a closer that has a program end, along a schedule that leads to `s`. -/
structure EndsOnce (asked : List Call) (schedule : List (Nat × Bool)) (s : System) : Prop where
  /-- The program is killed once at most. -/
  kills_le : s.closer.kills ≤ 1
  /-- It has been killed when any kill has returned. -/
  killed : ∀ (i : Nat) (byMarker : Bool), asked[i]? = some .kill →
    s.calls[i]? = some (.returned byMarker) → s.closer.kills = 1
  /-- The end of output and the close are sent once at most, in this order, and after the
  kill. -/
  in_order : ∃ eofFailed closeFailed, s.closer.sent <+: lastWords eofFailed closeFailed
  /-- When the close has returned that marked the closer, the program has been killed and both
  messages were sent, whether or not they could be. -/
  closed : ∀ (i : Nat) (byMarker : Bool), MarkedBy ⟨{}, asked⟩ schedule i →
    s.calls[i]? = some (.returned byMarker) →
    s.closer.kills = 1 ∧ ∃ eofFailed closeFailed, s.closer.sent = lastWords eofFailed closeFailed
  /-- None but one close marks the closer, -/
  one_marker : ∀ i j, MarkedBy ⟨{}, asked⟩ schedule i → MarkedBy ⟨{}, asked⟩ schedule j → i = j
  marker_closes : ∀ i, MarkedBy ⟨{}, asked⟩ schedule i → asked[i]? = some .close
  /-- and one has by the time any close has returned. -/
  has_marker : ∀ (i : Nat) (byMarker : Bool), asked[i]? = some .close →
    s.calls[i]? = some (.returned byMarker) → ∃ j, MarkedBy ⟨{}, asked⟩ schedule j
  /-- A call that has not returned can go on, whatever becomes of its messages, -/
  goes_on : ∀ (i : Nat) (call : Call), s.calls[i]? = some call →
    (∀ byMarker, call ≠ .returned byMarker) → ∀ failed, (s.move i failed).isSome = true
  /-- and returns after four steps of its own at most. -/
  soon : ∀ (i : Nat) (call : Call), s.calls[i]? = some call →
    schedule.countP (·.1 = i) + call.left ≤ 4

/-- **A closer closes once and kills once**, whoever calls it and however the calls are
interleaved. -/
theorem closed_once (fresh : ∀ c ∈ asked, c = .kill ∨ c = .close)
    (ran : run ⟨{}, asked⟩ schedule = some s) : EndsOnce asked schedule s := by
  obtain ⟨kept, left⟩ := Kept.run fresh ran
  have gone : s.closer.hasProgram = false → s.closer.kills = 1 := by
    intro gone
    rw [kept.counted, gone]
    rfl
  have standing : ∀ {i : Nat} {a call : Call}, asked[i]? = some a → s.calls[i]? = some call →
      Stands s.closer a (MarkedBy ⟨{}, asked⟩ schedule i) call := by
    intro i a call ha hc
    obtain ⟨call', hc', stands⟩ := kept.stands i a ha
    obtain rfl := Option.some.inj (hc.symm.trans hc')
    exact stands
  -- whoever has marked the closer was asked to, and has sent what it has
  have marker : ∀ {i : Nat}, MarkedBy ⟨{}, asked⟩ schedule i → asked[i]? = some .close ∧
      ∃ eofFailed closeFailed, s.closer.sent <+: lastWords eofFailed closeFailed := by
    intro i own
    have ha := List.getElem?_eq_getElem (kept.placed i own)
    obtain ⟨call, -, stands⟩ := kept.stands i _ ha
    obtain ⟨close, sent⟩ := stands.sent_of_marks own
    exact ⟨ha.trans (congrArg some close), sent⟩
  constructor
  case kills_le =>
    rw [kept.counted]
    exact Bool.toNat_le _
  case killed =>
    intro i byMarker ha hc
    cases standing ha hc with
    | killed other taken => exact gone taken
  case in_order =>
    cases marked : s.closer.marked with
    | false =>
      rw [kept.unmarked marked]
      exact ⟨false, false, List.nil_prefix⟩
    | true =>
      obtain ⟨i, own⟩ := kept.marked_iff.mp marked
      exact (marker own).2
  case closed =>
    intro i byMarker own hc
    cases standing (marker own).1 hc with
    | late other => exact absurd own other
    | ended _ taken f f' told => exact ⟨gone taken, f, f', told⟩
  case one_marker => exact kept.unique
  case marker_closes =>
    intro i own
    exact (marker own).1
  case has_marker =>
    intro i byMarker ha hc
    cases standing ha hc with
    | late other marked => exact kept.marked_iff.mp marked
    | ended own => exact ⟨i, own⟩
  case goes_on =>
    intro i call hc running failed
    rw [System.move, hc]
    cases call with
    | returned byMarker => exact absurd rfl (running byMarker)
    | _ => rfl
  case soon => exact left

/-- The end of output cannot be sent any more and a kill comes in between: nothing is sent or
killed twice. -/
theorem closed_once_overtaken :
    (∀ c ∈ [Call.close, .kill, .close], c = .kill ∨ c = .close) ∧
      run ⟨{}, [.close, .kill, .close]⟩
          [(0, false), (2, false), (1, false), (0, false), (0, true), (0, true)] =
        some ⟨⟨true, false, 1, lastWords true true⟩,
          [.returned true, .returned false, .returned false]⟩ ∧
      EndsOnce [.close, .kill, .close]
        [(0, false), (2, false), (1, false), (0, false), (0, true), (0, true)]
        ⟨⟨true, false, 1, lastWords true true⟩,
          [.returned true, .returned false, .returned false]⟩ :=
  ⟨by decide, by decide, closed_once (by decide) (by decide)⟩

end System

end ShellGateway.Daemon.Closer
