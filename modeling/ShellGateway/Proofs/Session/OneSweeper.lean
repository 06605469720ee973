import Mathlib.Data.List.Induction
import ShellGateway.Proofs.Session.Pacing
import ShellGateway.Proofs.Session.Staffing
import ShellGateway.Session.Rehearsal

/-!
# At most one sweeper

Starts and stops of the sweeper come in any order, and each can be overtaken by the others
between any two of its steps. A start has its task running before the task is in the slot, and
what is taken out of the slot runs on until it is stopped, so that for a while several tasks
may run.

What keeps them together is who holds them. A task that has been started is in one place
(`System.places`): in the slot, in the hands of a call that is to store or to stop it, or it has
been stopped once. A step of a call passes on what it holds and loses nothing
(`step_passes_on`). Calls that have come to their end hold nothing. Then every task has been
stopped once, but for the one in the slot, and that is the one that was stored last
(`aborts_at_end`, `one_sweeper`).

Meanwhile the tasks sweep. What happens to a task is that it is started, that it takes its turns,
and that it is stopped (`System.Fate`). So each keeps the pace that it was started with
(`System.paced`), which is a pace of beginnings: nothing makes a task rest when a sweep has taken
as long as the period of its timer (`swept_without_rest`).
-/

namespace ShellGateway.Session

variable {τ : Type} {T : Timer τ}

namespace Sweepers

/-! ## What is noted down -/

/-- The task that a call is to store or to stop. -/
def Call.held? : Call → Option SweeperId
  | storing t | aborting t => some t
  | starting _ _ | stopping | finished => none

/-- Whether a call has its task still to start. -/
def Call.isStart : Call → Bool
  | starting _ _ => true
  | storing _ | aborting _ | stopping | finished => false

/-- What a call puts into the slot in its next step. -/
def Call.fills? : Call → Option (Option SweeperId)
  | storing t => some (some t)
  | stopping => some none
  | starting _ _ | aborting _ | finished => none

namespace System

/-- What an observer notes down of each act. -/
def trail {α : Type} (T : Timer τ) (look : System τ → Act → List α) (s : System τ) :
    List Act → List α
  | [] => []
  | a :: rest =>
    look s a ++ match s.act T a with
      | some t => t.trail T look rest
      | none => []

/-- The call that starts a task. -/
def starting (s : System τ) : Act → List Nat
  | .step call => if s.calls[call]?.any Call.isStart then [call] else []
  | .turn _ _ => []

/-- What is put into the slot. -/
def filling (s : System τ) : Act → List (Option SweeperId)
  | .step call => (s.calls[call]? >>= Call.fills?).toList
  | .turn _ _ => []

/-- The sweep that a task begins. -/
def beginning (T : Timer τ) (k : SweeperId) (s : System τ) : Act → List (Moment × Nat)
  | .step _ => []
  | .turn r what => if r = k then (s.sweepers.tasks[r]?.map (·.began T what)).getD [] else []

/-- The sweep that a task ends. -/
def ending (k : SweeperId) (_ : System τ) : Act → List Moment
  | .step _ => []
  | .turn r what => if r = k then what.ended else []

/-- The calls that have started tasks. Tasks are numbered in this order. -/
def starters (T : Timer τ) (s : System τ) (acts : List Act) : List Nat :=
  s.trail T starting acts

/-- What was put into the slot last: the task that was stored, or nothing, when a stop came after
it. -/
def storedLast (T : Timer τ) (s : System τ) (acts : List Act) : Option SweeperId :=
  (s.trail T filling acts).getLast?.getD s.sweepers.slot

/-- The sweeps that a task has begun: when, and for how long sessions could be idle. -/
def begun (T : Timer τ) (s : System τ) (k : SweeperId) (acts : List Act) : List (Moment × Nat) :=
  s.trail T (beginning T k) acts

/-- When a task has ended its sweeps. -/
def ended (T : Timer τ) (s : System τ) (k : SweeperId) (acts : List Act) : List Moment :=
  s.trail T (ending k) acts

section

variable {s t u : System τ} {a : Act} {acts : List Act} {α : Type}

/-! ## Looking back -/

/-- An act is a step of a call or the turn of a task. -/
theorem act_cases (h : s.act T a = some t) :
    (∃ i call sweepers call', a = .step i ∧ s.calls[i]? = some call ∧
      s.sweepers.step call = some (sweepers, call') ∧ t = ⟨sweepers, s.calls.set i call'⟩) ∨
    ∃ r what task task', a = .turn r what ∧ s.sweepers.tasks[r]? = some task ∧
      task.turn T what = some task' ∧
      t = { s with sweepers := { s.sweepers with tasks := s.sweepers.tasks.set r task' } } := by
  cases a with
  | step i =>
    obtain ⟨call, hcall, h⟩ := Option.bind_eq_some_iff.mp h
    obtain ⟨⟨sweepers, call'⟩, hstep, h⟩ := Option.bind_eq_some_iff.mp h
    exact .inl ⟨i, call, sweepers, call', rfl, hcall, hstep, (Option.some.inj h).symm⟩
  | turn r what =>
    obtain ⟨sweepers, turned, h⟩ := Option.bind_eq_some_iff.mp h
    obtain ⟨task, here, turned⟩ := Option.bind_eq_some_iff.mp turned
    obtain ⟨task', did, turned⟩ := Option.bind_eq_some_iff.mp turned
    obtain rfl := Option.some.inj turned
    exact .inr ⟨r, what, task, task', rfl, here, did, (Option.some.inj h).symm⟩

theorem after_append (s : System τ) (acts more : List Act) :
    s.after T (acts ++ more) = s.after T acts >>= fun t => t.after T more := by
  induction acts generalizing s with
  | nil => rfl
  | cons a rest ih =>
    show (s.act T a >>= fun t => t.after T (rest ++ more)) =
      (s.act T a >>= fun t => t.after T rest) >>= fun t => t.after T more
    cases s.act T a with
    | none => rfl
    | some t => exact ih t

theorem after_concat (s : System τ) (acts : List Act) (a : Act) :
    s.after T (acts ++ [a]) = s.after T acts >>= fun t => t.act T a := by
  rw [after_append]
  refine congrArg _ (funext fun t => ?_)
  show t.act T a >>= (some ·) = t.act T a
  cases t.act T a <;> rfl

/-- What holds at first and is kept by every act holds after all of them. -/
theorem after_induction {P : List Act → System τ → Prop} (first : P [] s)
    (next : ∀ acts t a u,
      s.after T acts = some t → P acts t → t.act T a = some u → P (acts ++ [a]) u)
    (ran : s.after T acts = some t) : P acts t := by
  induction acts using List.reverseRecOn generalizing t with
  | nil =>
    obtain rfl := Option.some.inj ran
    exact first
  | append_singleton acts a ih =>
    rw [after_concat] at ran
    obtain ⟨u, hu, ha⟩ := Option.bind_eq_some_iff.mp ran
    exact next acts u a t hu (ih hu) ha

theorem trail_concat (look : System τ → Act → List α) (a : Act) (ran : s.after T acts = some t) :
    s.trail T look (acts ++ [a]) = s.trail T look acts ++ look t a := by
  induction acts generalizing s with
  | nil =>
    obtain rfl := Option.some.inj ran
    simp only [List.nil_append, trail]
    cases s.act T a <;> exact List.append_nil _
  | cons b rest ih =>
    obtain ⟨u, hu, hrest⟩ := Option.bind_eq_some_iff.mp ran
    simp only [List.cons_append, trail, hu]
    rw [ih hrest, List.append_assoc]

end

end System

/-! ## Where tasks are -/

theorem Call.held?_abortTaken (taken : Option SweeperId) : (abortTaken taken).held? = taken := by
  cases taken <;> rfl

/-- How often a task has been stopped. -/
def abortsOf (s : Sweepers τ) (t : SweeperId) : Nat :=
  (s.tasks[t]?.map SweeperTask.aborts).getD 0

/-- Whether a task has been started, as a number. -/
def isTask (s : Sweepers τ) (t : SweeperId) : Nat :=
  if t < s.tasks.length then 1 else 0

/-- Whether a task is in one given place, as a number. -/
def isAt (t : SweeperId) (place : Option SweeperId) : Nat :=
  if place = some t then 1 else 0

theorem isTask_le (s : Sweepers τ) (t : SweeperId) : s.isTask t ≤ 1 := by
  unfold isTask
  split <;> decide

theorem abortsOf_started (s : Sweepers τ) (task : SweeperTask τ) (new : task.aborts = 0)
    (t : SweeperId) : { s with tasks := s.tasks ++ [task] }.abortsOf t = s.abortsOf t := by
  unfold abortsOf
  dsimp only
  rcases Nat.lt_trichotomy t s.tasks.length with before | rfl | beyond
  · rw [List.getElem?_append_left before]
  · rw [List.getElem?_concat_length, List.getElem?_eq_none (Nat.le_refl _)]
    exact new
  · rw [List.getElem?_eq_none (by simpa using Nat.succ_le_of_lt beyond),
      List.getElem?_eq_none (Nat.le_of_lt beyond)]

theorem isTask_started (s : Sweepers τ) (task : SweeperTask τ) (t : SweeperId) :
    { s with tasks := s.tasks ++ [task] }.isTask t = s.isTask t + isAt t (some s.tasks.length) := by
  have more : t < s.tasks.length + 1 ↔ t < s.tasks.length ∨ s.tasks.length = t :=
    Nat.lt_succ_iff_lt_or_eq.trans (or_congr_right eq_comm)
  unfold isTask isAt
  simp only [List.length_append, List.length_singleton, Option.some.injEq, more]
  by_cases before : t < s.tasks.length
  · simp [before, (Nat.ne_of_lt before).symm]
  · simp [before]

theorem abortsOf_abort {s : Sweepers τ} {t : SweeperId} (known : s.isTask t = 1) (r : SweeperId) :
    (s.abort t).abortsOf r = s.abortsOf r + isAt r (some t) := by
  unfold abortsOf abort isAt
  dsimp only
  rw [List.getElem?_modify]
  by_cases same : t = r
  · subst same
    have here : t < s.tasks.length := by
      by_contra beyond
      rw [isTask, if_neg beyond] at known
      cases known
    rw [List.getElem?_eq_getElem here]
    simp
  · simp [same]

theorem isTask_abort (s : Sweepers τ) (t r : SweeperId) : (s.abort t).isTask r = s.isTask r := by
  unfold isTask abort
  rw [List.length_modify]

/-- A stop that nothing comes in between of stops the task in the slot. -/
theorem abortsOf_stop {s : Sweepers τ} (known : ∀ t, s.slot = some t → s.isTask t = 1)
    (k : SweeperId) : s.stop.abortsOf k = s.abortsOf k + isAt k s.slot ∧
      s.stop.isTask k = s.isTask k := by
  cases slot : s.slot with
  | none =>
    have stopped : s.stop = { s with slot := none } := by
      simp [stop, alone, alone.go, step, slot, Call.abortTaken]
    rw [stopped]
    exact ⟨rfl, rfl⟩
  | some t =>
    have stopped : s.stop = { s with slot := none }.abort t := by
      simp [stop, alone, alone.go, step, slot, Call.abortTaken]
    rw [stopped]
    exact ⟨abortsOf_abort (s := { s with slot := none }) (known t slot) k, isTask_abort _ t k⟩

/-- **A step of a call passes on what the call holds**: what was in the slot, in the hands of the
call or stopped before is so afterwards, and a task that is started is in the hands of the call. -/
theorem step_passes_on {s s' : Sweepers τ} {call call' : Call}
    (known : ∀ t, call.held? = some t → s.isTask t = 1) (h : s.step call = some (s', call'))
    (t : SweeperId) :
    isAt t s'.slot + isAt t call'.held? + s'.abortsOf t + s.isTask t =
      isAt t s.slot + isAt t call.held? + s.abortsOf t + s'.isTask t := by
  cases call with
  | starting interval maxIdle =>
    cases h
    rw [abortsOf_started s (.make interval maxIdle) rfl, isTask_started]
    show _ + isAt t (some _) + _ + _ = _ + isAt t none + _ + _
    simp only [isAt, reduceCtorEq, if_false]
    omega
  | storing r =>
    cases h
    rw [Call.held?_abortTaken]
    show isAt t (some r) + isAt t s.slot + s.abortsOf t + s.isTask t =
      isAt t s.slot + isAt t (some r) + s.abortsOf t + s.isTask t
    omega
  | aborting r =>
    cases h
    rw [abortsOf_abort (known r rfl), isTask_abort]
    show isAt t s.slot + isAt t none + _ + _ = isAt t s.slot + isAt t (some r) + _ + _
    simp only [isAt, reduceCtorEq, if_false]
    omega
  | stopping =>
    cases h
    rw [Call.held?_abortTaken]
    show isAt t none + isAt t s.slot + s.abortsOf t + s.isTask t =
      isAt t s.slot + isAt t none + s.abortsOf t + s.isTask t
    omega
  | finished => cases h

namespace System

section

variable {s t u : System τ} {a : Act} {acts : List Act} {asked : List Call}

/-- In how many places a task is: the slot, the hands of calls, and the stops that it has met. -/
def places (s : System τ) (k : SweeperId) : Nat :=
  isAt k s.sweepers.slot + (s.calls.map fun call => isAt k call.held?).sum + s.sweepers.abortsOf k

/-- The turn of a task stops no task and starts none. -/
theorem abortsOf_turned (s : Sweepers τ) {r : SweeperId} {task task' : SweeperTask τ}
    (here : s.tasks[r]? = some task) (same : task'.aborts = task.aborts) (k : SweeperId) :
    { s with tasks := s.tasks.set r task' }.abortsOf k = s.abortsOf k ∧
      { s with tasks := s.tasks.set r task' }.isTask k = s.isTask k := by
  unfold abortsOf isTask
  dsimp only
  rw [List.length_set]
  refine ⟨congrArg (Option.getD · 0) ?_, rfl⟩
  by_cases other : r = k
  · subst other
    rw [List.getElem?_set_self (List.getElem?_eq_some_iff.mp here).1, here, Option.map_some,
      Option.map_some, same]
  · rw [List.getElem?_set_ne other]

/-- Calls that hold nothing hold no task. -/
theorem held_eq_zero {calls : List Call} (nobody : ∀ c ∈ calls, c.held? = none) (k : SweeperId) :
    (calls.map fun call => isAt k call.held?).sum = 0 := by
  refine List.sum_eq_zero_iff_forall_eq_nat.mpr fun n hn => ?_
  obtain ⟨c, hc, rfl⟩ := List.mem_map.mp hn
  rw [nobody c hc]
  rfl

/-- **Every task is in one place**, whatever happens. -/
theorem places_eq (fresh : ∀ c ∈ asked, c.held? = none)
    (ran : (initial asked).after T acts = some s) (k : SweeperId) :
    s.places k = s.sweepers.isTask k := by
  refine after_induction (P := fun _ s => ∀ k, s.places k = s.sweepers.isTask k) ?_ ?_ ran k
  · intro k
    show 0 + (asked.map fun call => isAt k call.held?).sum + 0 = 0
    rw [held_eq_zero fresh]
  · intro acts t a u _ placed ha k
    rcases act_cases ha with ⟨i, call, sweepers, call', rfl, hcall, hstep, rfl⟩ |
      ⟨r, what, task, task', rfl, here, did, rfl⟩
    · have known : ∀ r, call.held? = some r → t.sweepers.isTask r = 1 := by
        intro r held
        have here : isAt r call.held? = 1 := if_pos held
        have others : _ + isAt r call.held? = _ + 0 :=
          sum_map_set (fun call => isAt r call.held?) hcall .finished
        have one := isTask_le t.sweepers r
        have before := placed r
        unfold places at before
        omega
      have passed := step_passes_on known hstep k
      have changed := sum_map_set (fun call => isAt k call.held?) hcall call'
      have before := placed k
      unfold places at before ⊢
      dsimp only at changed ⊢
      omega
    · obtain ⟨aborts, tasks⟩ :=
        abortsOf_turned t.sweepers here (SweeperTask.aborts_turn did) k
      have before := placed k
      unfold places at before ⊢
      rw [aborts, tasks]
      exact before

/-! ## Starts and the slot -/

/-- The slot holds what was put there last. -/
theorem slot_eq_storedLast (ran : s.after T acts = some t) :
    t.sweepers.slot = s.storedLast T acts := by
  refine after_induction (P := fun acts t => t.sweepers.slot = s.storedLast T acts) rfl ?_ ran
  intro acts t a u ran before ha
  have filled : u.sweepers.slot = (t.filling a).getLast?.getD t.sweepers.slot := by
    rcases act_cases ha with ⟨i, call, sweepers, call', rfl, hcall, hstep, rfl⟩ |
      ⟨r, what, task, task', rfl, -, -, rfl⟩
    · show sweepers.slot = (t.calls[i]? >>= Call.fills?).toList.getLast?.getD _
      rw [hcall]
      cases call with
      | finished => cases hstep
      | _ =>
        cases hstep
        rfl
    · rfl
  rw [filled, before, storedLast, storedLast, trail_concat filling a ran, List.getLast?_append,
    Option.getD_or]

/-- When the calls have come to their end, a task is the one that was stored last or has been
stopped. -/
theorem placed_at_end (fresh : ∀ c ∈ asked, c.held? = none)
    (ran : (initial asked).after T acts = some t) (finished : ∀ c ∈ t.calls, c = .finished)
    (k : SweeperId) :
    isAt k ((initial asked).storedLast T acts) + t.sweepers.abortsOf k = t.sweepers.isTask k := by
  have released : ∀ c ∈ t.calls, c.held? = none := by
    intro c hc
    rw [finished c hc]
    rfl
  have one := places_eq fresh ran k
  rw [places, held_eq_zero released, slot_eq_storedLast ran] at one
  exact one

/-- Then the task that was stored last has not been stopped, and every other has been, once. -/
theorem aborts_at_end (fresh : ∀ c ∈ asked, c.held? = none)
    (ran : (initial asked).after T acts = some t) (finished : ∀ c ∈ t.calls, c = .finished)
    {k : SweeperId} {task : SweeperTask τ} (hk : t.sweepers.tasks[k]? = some task) :
    task.aborts = if (initial asked).storedLast T acts = some k then 0 else 1 := by
  have placed := placed_at_end fresh ran finished k
  have there := (List.getElem?_eq_some_iff.mp hk).1
  rw [isTask, if_pos there, abortsOf, hk] at placed
  have one : isAt k ((initial asked).storedLast T acts) + task.aborts = 1 := placed
  unfold isAt at one
  split at one <;> rename_i stored
  · rw [if_pos stored]
    omega
  · rw [if_neg stored]
    omega

/-- No step leads back to where a task is still to start. -/
theorem isStart_step {s s' : Sweepers τ} {call call' : Call}
    (h : s.step call = some (s', call')) : call'.isStart = false := by
  have taken : ∀ slot, (Call.abortTaken slot).isStart = false := by
    intro slot
    cases slot <;> rfl
  cases call with
  | storing | stopping =>
    cases h
    exact taken _
  | starting | aborting =>
    cases h
    rfl
  | finished => cases h

/-- **A start starts one task**, and until then it stands where it stood. -/
theorem count_starters (ran : (initial asked).after T acts = some t) (c : Nat) :
    (t.calls[c]? = asked[c]? ∧ ((initial asked).starters T acts).count c = 0) ∨
      (t.calls[c]?.any Call.isStart = false ∧
        ((initial asked).starters T acts).count c = (asked[c]?.any Call.isStart).toNat) := by
  refine after_induction (P := fun acts t => (t.calls[c]? = asked[c]? ∧
      ((initial asked).starters T acts).count c = 0) ∨ (t.calls[c]?.any Call.isStart = false ∧
        ((initial asked).starters T acts).count c = (asked[c]?.any Call.isStart).toNat))
    (.inl ⟨rfl, rfl⟩) ?_ ran
  intro acts t a u ran before ha
  rw [starters, trail_concat starting a ran, ← starters, List.count_append]
  rcases act_cases ha with ⟨i, call, sweepers, call', rfl, hcall, hstep, rfl⟩ |
    ⟨r, what, task, task', rfl, -, -, rfl⟩
  · show (((t.calls.set i call')[c]? = _) ∧ _ + (if t.calls[i]?.any _ then [i] else []).count c = 0)
      ∨ ((t.calls.set i call')[c]?.any _ = false ∧
        _ + (if t.calls[i]?.any _ then [i] else []).count c = _)
    by_cases mover : i = c
    · subst mover
      have here : i < t.calls.length := (List.getElem?_eq_some_iff.mp hcall).1
      rw [List.getElem?_set_self here]
      refine .inr ⟨isStart_step hstep, ?_⟩
      rcases before with ⟨same, none⟩ | ⟨started, one⟩
      · rw [none, ← same, hcall]
        cases h : call.isStart <;> simp [h]
      · rw [one, started]
        simp
    · rw [List.getElem?_set_ne mover]
      have other : (if t.calls[i]?.any Call.isStart then [i] else []).count c = 0 := by
        split
        · simp [mover]
        · rfl
      rw [other, Nat.add_zero]
      exact before
  · exact before

/-! ## What becomes of a task -/

/-- What an act does to a task that there is afterwards. -/
inductive Fate (T : Timer τ) (s : System τ) (a : Act) (k : SweeperId) (after : SweeperTask τ) :
    Prop where
  | started {i : Nat} {interval maxIdle : Duration} (act : a = .step i)
      (call : s.calls[i]? = some (.starting interval maxIdle))
      (number : k = s.sweepers.tasks.length) (made : after = .make interval maxIdle)
  | kept {task : SweeperTask τ} (here : s.sweepers.tasks[k]? = some task) (aborts : Nat)
      (same : after = { task with aborts }) (quiet : s.beginning T k a = [] ∧ s.ending k a = [])
  | turned {task : SweeperTask τ} {what : SweeperTurn} (here : s.sweepers.tasks[k]? = some task)
      (act : a = .turn k what) (did : task.turn T what = some after)

/-- **A task is started, takes its turns, and is stopped**, and nothing else becomes of it. -/
theorem fate {k : SweeperId} {task : SweeperTask τ} (ha : s.act T a = some t)
    (hk : t.sweepers.tasks[k]? = some task) : s.Fate T a k task := by
  rcases act_cases ha with ⟨i, call, sweepers, call', rfl, hcall, hstep, rfl⟩ |
    ⟨r, what, sweeper, sweeper', rfl, there, did, rfl⟩
  · cases call with
    | starting interval maxIdle =>
      cases hstep
      have hk : (s.sweepers.tasks ++ [.make interval maxIdle])[k]? = some task := hk
      obtain ⟨here, -⟩ | ⟨number, made⟩ := getElem?_concat_cases hk
      · exact .kept here task.aborts rfl ⟨rfl, rfl⟩
      · exact .started rfl hcall number made
    | storing | stopping =>
      cases hstep
      exact .kept hk task.aborts rfl ⟨rfl, rfl⟩
    | aborting r =>
      cases hstep
      have hk : (s.sweepers.tasks.modify r _)[k]? = some task := hk
      rw [List.getElem?_modify] at hk
      obtain ⟨earlier, here, rfl⟩ := Option.map_eq_some_iff.mp hk
      by_cases met : r = k
      · rw [if_pos met]
        exact .kept here (earlier.aborts + 1) rfl ⟨rfl, rfl⟩
      · rw [if_neg met]
        exact .kept here earlier.aborts rfl ⟨rfl, rfl⟩
    | finished => cases hstep
  · have hk : (s.sweepers.tasks.set r sweeper')[k]? = some task := hk
    by_cases met : r = k
    · subst met
      rw [List.getElem?_set_self (List.getElem?_eq_some_iff.mp there).1] at hk
      obtain rfl := Option.some.inj hk
      exact .turned there rfl did
    · rw [List.getElem?_set_ne met] at hk
      exact .kept hk task.aborts rfl ⟨if_neg met, if_neg met⟩

/-- Tasks are numbered as they are started. -/
theorem length_starters (ran : (initial asked).after T acts = some t) :
    ((initial asked).starters T acts).length = t.sweepers.tasks.length := by
  refine after_induction (P := fun acts t =>
    ((initial asked).starters T acts).length = t.sweepers.tasks.length) rfl ?_ ran
  intro acts t a u ran before ha
  rw [starters, trail_concat starting a ran, ← starters, List.length_append, before]
  rcases act_cases ha with ⟨i, call, sweepers, call', rfl, hcall, hstep, rfl⟩ |
    ⟨r, what, task, task', rfl, -, -, rfl⟩
  · show _ + (if t.calls[i]?.any Call.isStart then [i] else []).length = sweepers.tasks.length
    rw [hcall]
    cases call with
    | starting =>
      cases hstep
      show _ = (t.sweepers.tasks ++ [_]).length
      rw [List.length_append]
      rfl
    | aborting =>
      cases hstep
      exact (List.length_modify ..).symm
    | storing | stopping =>
      cases hstep
      rfl
    | finished => cases hstep
  · exact List.length_set.symm

/-- **Every task goes by the settings of the call that started it.** -/
theorem exists_start (ran : (initial asked).after T acts = some t) {k : SweeperId}
    {task : SweeperTask τ} (hk : t.sweepers.tasks[k]? = some task) :
    ∃ c interval maxIdle, ((initial asked).starters T acts)[k]? = some c ∧
      asked[c]? = some (.starting interval maxIdle) ∧ task.GoesBy interval maxIdle := by
  refine after_induction (P := fun acts t => ∀ k task, t.sweepers.tasks[k]? = some task →
    ∃ c interval maxIdle, ((initial asked).starters T acts)[k]? = some c ∧
      asked[c]? = some (.starting interval maxIdle) ∧ task.GoesBy interval maxIdle) nofun ?_ ran
    k task hk
  intro acts t a u ran before ha k task hk
  rw [starters, trail_concat starting a ran, ← starters]
  -- who started an earlier task is known already
  have earlier : ∀ {old : SweeperTask τ}, t.sweepers.tasks[k]? = some old →
      task.interval = old.interval ∧ task.maxIdle = old.maxIdle →
      ∃ c interval maxIdle, ((initial asked).starters T acts ++ starting t a)[k]? = some c ∧
        asked[c]? = some (.starting interval maxIdle) ∧ task.GoesBy interval maxIdle := by
    intro old here ⟨interval, maxIdle⟩
    obtain ⟨c, i, m, hc, start, goes⟩ := before k old here
    have listed := (List.getElem?_eq_some_iff.mp hc).1
    refine ⟨c, i, m, (List.getElem?_append_left listed).trans hc, start, ?_⟩
    rw [SweeperTask.GoesBy, interval, maxIdle]
    exact goes
  cases fate ha hk with
  | kept here aborts same quiet =>
    subst same
    exact earlier here ⟨rfl, rfl⟩
  | turned here act did => exact earlier here (SweeperTask.settings_turn did)
  | @started i interval maxIdle act call number made =>
    subst act number made
    refine ⟨i, interval, maxIdle, ?_, ?_, rfl, rfl⟩
    · rw [← length_starters ran, List.getElem?_append_right (Nat.le_refl _), Nat.sub_self]
      show (if t.calls[i]?.any Call.isStart then [i] else [])[0]? = some i
      rw [call]
      rfl
    · rcases count_starters ran i with ⟨same, -⟩ | ⟨started, -⟩
      · exact same.symm.trans call
      · rw [call] at started
        cases started

/-- A task that has not been started has not swept. -/
theorem trail_eq_nil {look : System τ → Act → List α} {k : SweeperId}
    (quiet : ∀ (t : System τ) a u, t.act T a = some u → t.sweepers.tasks.length ≤ k →
      look t a = [])
    (ran : (initial asked).after T acts = some t) (beyond : t.sweepers.tasks.length ≤ k) :
    (initial asked).trail T look acts = [] := by
  refine after_induction (P := fun acts t => t.sweepers.tasks.length ≤ k →
    (initial asked).trail T look acts = []) (fun _ => rfl) ?_ ran beyond
  intro acts t a u ran before ha beyond
  have fewer : t.sweepers.tasks.length ≤ k := by
    have all : ((initial asked).starters T (acts ++ [a])).length = u.sweepers.tasks.length := by
      apply length_starters
      rw [after_concat, ran]
      exact ha
    rw [starters, trail_concat starting a ran, ← starters, List.length_append,
      length_starters ran] at all
    omega
  rw [trail_concat _ a ran, before fewer, quiet t a u ha fewer]
  rfl

/-- A turn is taken by a task that has been started. -/
theorem quiet_of_beyond {k : SweeperId} (ha : s.act T a = some t)
    (beyond : s.sweepers.tasks.length ≤ k) : s.beginning T k a = [] ∧ s.ending k a = [] := by
  rcases act_cases ha with ⟨i, call, sweepers, call', rfl, -, -, -⟩ |
    ⟨r, what, task, task', rfl, here, -, -⟩
  · exact ⟨rfl, rfl⟩
  · have there : r < s.sweepers.tasks.length := (List.getElem?_eq_some_iff.mp here).1
    have other : r ≠ k := Nat.ne_of_lt (Nat.lt_of_lt_of_le there beyond)
    exact ⟨if_neg other, if_neg other⟩

/-- **Every task keeps its pace.** -/
theorem paced (periodic : T.IsPeriodic) (ran : (initial asked).after T acts = some t)
    {k : SweeperId} {task : SweeperTask τ} (hk : t.sweepers.tasks[k]? = some task) :
    task.Paced T ((initial asked).begun T k acts) ((initial asked).ended T k acts) := by
  refine after_induction (P := fun acts t => ∀ task, t.sweepers.tasks[k]? = some task →
    task.Paced T ((initial asked).begun T k acts) ((initial asked).ended T k acts))
    (fun _ h => ?_) ?_ ran task hk
  · cases h
  intro acts t a u ran before ha task hk
  rw [begun, ended, trail_concat _ a ran, trail_concat _ a ran, ← begun, ← ended]
  cases fate ha hk with
  | kept here aborts same quiet =>
    subst same
    rw [quiet.1, quiet.2, List.append_nil, List.append_nil]
    exact (before _ here).aborted aborts
  | @turned earlier what here act did =>
    subst act
    have begins : t.beginning T k (.turn k what) = earlier.began T what := by
      simp [beginning, here]
    have ends : t.ending k (.turn k what) = what.ended := if_pos rfl
    rw [begins, ends]
    exact (before _ here).turn periodic did
  | started act call number made =>
    have quiet := quiet_of_beyond ha (Nat.le_of_eq number.symm)
    have none : (initial asked).begun T k acts = [] :=
      trail_eq_nil (fun _ _ _ ha beyond => (quiet_of_beyond ha beyond).1) ran
        (Nat.le_of_eq number.symm)
    have noneToo : (initial asked).ended T k acts = [] :=
      trail_eq_nil (fun _ _ _ ha beyond => (quiet_of_beyond ha beyond).2) ran
        (Nat.le_of_eq number.symm)
    rw [none, noneToo, quiet.1, quiet.2, made]
    exact .make T _ _

end

/-! ## Every interleaving -/

/-- What is left of the sweepers when the calls that were asked for have come to their end. -/
structure OneLeft (T : Timer τ) (asked : List Call) (acts : List Act) (s : System τ) : Prop where
  /-- Each start has started one task, and nothing else has. -/
  started : ∀ c call, asked[c]? = some call →
    ((initial asked).starters T acts).count c = call.isStart.toNat
  numbered : ((initial asked).starters T acts).length = s.sweepers.tasks.length
  /-- The slot holds the task that was stored last, or none when a stop came after it. -/
  in_charge : s.sweepers.slot = (initial asked).storedLast T acts
  is_task : ∀ k, (initial asked).storedLast T acts = some k → k < s.sweepers.tasks.length
  /-- This task has not been stopped, and every other has been stopped once. -/
  stopped : ∀ k task, s.sweepers.tasks[k]? = some task →
    task.aborts = if (initial asked).storedLast T acts = some k then 0 else 1
  /-- None but this task is woken any more, -/
  woken : ∀ k task, s.sweepers.tasks[k]? = some task → task.stage = .resting →
    task.canAsk = true → (initial asked).storedLast T acts = some k
  /-- and when the registry goes away it is stopped as well. -/
  dropped : ∀ task ∈ s.sweepers.stop.tasks, task.aborts = 1
  /-- Every task, and so this one, keeps the pace that it was started with. -/
  paced : ∀ k (task : SweeperTask τ), s.sweepers.tasks[k]? = some task → ∃ c interval maxIdle,
    ((initial asked).starters T acts)[k]? = some c ∧
      asked[c]? = some (.starting interval maxIdle) ∧
      task.Pace T interval maxIdle ((initial asked).begun T k acts)
        ((initial asked).ended T k acts)

/-- **At most one sweeper is left**, however starts and stops are interleaved and whatever was
swept meanwhile: the one that was stored last. -/
theorem one_sweeper {T : Timer τ} {asked : List Call} {acts : List Act} {s : System τ}
    (periodic : T.IsPeriodic)
    (fresh : ∀ c ∈ asked, c = .stopping ∨ ∃ interval maxIdle, c = .starting interval maxIdle)
    (ran : (initial asked).after T acts = some s) (finished : ∀ c ∈ s.calls, c = .finished) :
    OneLeft T asked acts s := by
  have empty : ∀ c ∈ asked, c.held? = none := by
    intro c hc
    rcases fresh c hc with rfl | ⟨interval, maxIdle, rfl⟩ <;> rfl
  have last := slot_eq_storedLast ran
  have placed := placed_at_end empty ran finished
  constructor
  case stopped => exact fun k task here => aborts_at_end empty ran finished here
  case numbered => exact length_starters ran
  case in_charge => exact last
  case started =>
    intro c call hc
    rcases count_starters ran c with ⟨same, none⟩ | ⟨-, one⟩
    · rw [finished call (List.mem_of_getElem? (same.trans hc))]
      exact none
    · rw [hc] at one
      exact one
  case is_task =>
    intro k stored
    have one := placed k
    rw [isAt, if_pos stored] at one
    by_contra beyond
    rw [isTask, if_neg beyond] at one
    omega
  case woken =>
    intro k task here resting may
    have unstopped : task.aborts = 0 := by
      rw [SweeperTask.canAsk, resting] at may
      exact beq_iff_eq.mp may
    have once := aborts_at_end empty ran finished here
    by_contra other
    rw [if_neg other, unstopped] at once
    cases once
  case dropped =>
    intro task hk
    obtain ⟨k, hk⟩ := List.mem_iff_getElem?.mp hk
    have known : ∀ t, s.sweepers.slot = some t → s.sweepers.isTask t = 1 := by
      intro t held
      have one := placed t
      rw [← last, isAt, if_pos held] at one
      have := isTask_le s.sweepers t
      omega
    obtain ⟨aborts, tasks⟩ := abortsOf_stop known k
    rw [last, Nat.add_comm, placed k, ← tasks, isTask,
      if_pos (List.getElem?_eq_some_iff.mp hk).1, abortsOf, hk] at aborts
    exact aborts
  case paced =>
    intro k task hk
    obtain ⟨c, interval, maxIdle, hc, start, goes⟩ := exists_start ran hk
    exact ⟨c, interval, maxIdle, hc, start, (paced periodic ran hk).pace periodic goes⟩

/-! ## With a metronome -/

theorem isPeriodic_metronome : metronome.IsPeriodic where
  period_start _ _ := rfl
  period_tick _ _ := rfl
  first _ _ := rfl
  in_time m _ _ soon := congrArg (· + (m.period : Int)) (if_neg (Int.not_lt.mpr soon))
  late m _ late := congrArg (· + (m.period : Int)) (if_pos late)

/-- Two starts and a stop. Both tasks run before either is in the slot, and both sweep. The stop
takes the second out, which is in a sweep when it is stopped, ends it and gives way; and the first
is stored after it. -/
theorem one_sweeper_crossing :
    let asked : List Call := [.starting ⟨0⟩ ⟨60000⟩, .starting ⟨250⟩ ⟨1000⟩, .stopping]
    let acts : List Act :=
      [.step 0, .step 1, .turn 0 (.ask 0), .turn 1 (.ask 10), .turn 0 (.finish 40),
        .turn 0 (.ask 50), .step 1, .step 2, .step 0, .step 2, .turn 1 (.finish 900),
        .turn 1 (.ask 900), .turn 0 (.ask 103000), .turn 0 (.finish 104000),
        .turn 0 (.ask 104000)]
    let left : System Metronome :=
      { sweepers :=
          ⟨[⟨100000, 60000000, some ⟨100000, 200000⟩, .resting, 0⟩,
            ⟨250000, 1000000, some ⟨250000, 250010⟩, .resting, 1⟩], some 0⟩
        calls := [.finished, .finished, .finished] }
    metronome.IsPeriodic ∧
      (∀ c ∈ asked, c = .stopping ∨ ∃ interval maxIdle, c = .starting interval maxIdle) ∧
      (initial asked).after metronome acts = some left ∧ (∀ c ∈ left.calls, c = .finished) ∧
      (initial asked).storedLast metronome acts = some 0 ∧
      (initial asked).begun metronome 0 acts = [(0, 60000000), (103000, 60000000)] ∧
      OneLeft metronome asked acts left := by
  intro asked acts left
  have fresh : ∀ c ∈ asked, c = .stopping ∨ ∃ interval maxIdle, c = .starting interval maxIdle := by
    simp [asked]
  have ran : (initial asked).after metronome acts = some left := by decide +kernel
  have finished : ∀ c ∈ left.calls, c = .finished := by decide
  exact ⟨isPeriodic_metronome, fresh, ran, finished, by decide +kernel, by decide +kernel,
    one_sweeper isPeriodic_metronome fresh ran finished⟩

/-- **A sweep that takes longer than the period is followed by the next with no rest.** One
sweeper, of a period of 100 ms. Its second sweep begins 4 ms late and its third in time, 96 ms
after the second; the third takes 300 ms, and the fourth begins when it ends. -/
theorem swept_without_rest :
    let asked : List Call := [.starting ⟨100⟩ ⟨60000⟩]
    let acts : List Act :=
      [.step 0, .step 0, .turn 0 (.ask 0), .turn 0 (.finish 1000), .turn 0 (.ask 1000),
        .turn 0 (.ask 104000), .turn 0 (.finish 105000), .turn 0 (.ask 105000),
        .turn 0 (.ask 200000), .turn 0 (.finish 500000), .turn 0 (.ask 500000)]
    ∃ s, (initial asked).after metronome acts = some s ∧ (∀ c ∈ s.calls, c = .finished) ∧
      (initial asked).storedLast metronome acts = some 0 ∧
      (initial asked).begun metronome 0 acts =
        [(0, 60000000), (104000, 60000000), (200000, 60000000), (500000, 60000000)] ∧
      (initial asked).ended metronome 0 acts = [1000, 105000, 500000] := by
  refine ⟨⟨⟨[⟨100000, 60000000, some ⟨100000, 600000⟩, .sweeping, 0⟩], some 0⟩, [.finished]⟩,
    by decide +kernel, by decide, by decide +kernel, by decide +kernel, by decide +kernel⟩

end System

end ShellGateway.Session.Sweepers
