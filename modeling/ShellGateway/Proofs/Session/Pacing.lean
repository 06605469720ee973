import ShellGateway.Session.Sweeper

/-!
# How a sweeper keeps time

A sweeper's task goes by its timer, and of the timer no more is assumed than what a timer is
expected to do (`Timer.IsPeriodic`): a tick follows the last by a period, and by a period from
when the last was taken if that was late.

So what is kept apart are the beginnings of sweeps. The next tick is as far from the beginning of
each sweep as it takes periods to get there, less the tolerance once, and no farther than one
period from the last (`SweeperTask.Paced`, kept by every turn of the task). From this it can be
told what a task does when a sweep is over (`SweeperTask.Pace`): it rests for what is left of the
period, and if nothing is left it goes on with the next sweep.
-/

namespace ShellGateway.Session

variable {τ : Type} {T : Timer τ}

/-! ## Timers -/

/-- A tick that is taken is followed by one that is due a period after it was, and a period after
it was taken, give or take the tolerance. -/
theorem Timer.IsPeriodic.next_tick (periodic : T.IsPeriodic) {t : τ} {now : Moment}
    (there : T.next t ≤ now) :
    T.next t + T.period t ≤ T.next (T.tick t now) ∧
      now + T.period t ≤ T.next (T.tick t now) + tolerance ∧
      T.next (T.tick t now) ≤ now + T.period t := by
  by_cases soon : now ≤ T.next t + tolerance
  · rw [periodic.in_time t now there soon]
    grind
  · rw [periodic.late t now (Int.lt_of_not_ge soon)]
    grind

/-! ## Lists that grow -/

/-- What is found after one more was appended was there before, or is what was appended. -/
theorem getElem?_concat_cases {α : Type} {l : List α} {x a : α} {i : Nat}
    (found : (l ++ [x])[i]? = some a) : l[i]? = some a ∧ i < l.length ∨ i = l.length ∧ a = x := by
  rcases Nat.lt_trichotomy i l.length with before | rfl | beyond
  · rw [List.getElem?_append_left before] at found
    exact .inl ⟨found, before⟩
  · rw [List.getElem?_concat_length] at found
    exact .inr ⟨rfl, (Option.some.inj found).symm⟩
  · rw [List.getElem?_eq_none (by simpa using Nat.succ_le_of_lt beyond)] at found
    cases found

/-! ## The turns of a task -/

namespace SweeperTask

/-- The sweep that a task begins in its turn: when, and for how long sessions may be idle. -/
def began (T : Timer τ) (t : SweeperTask τ) : SweeperTurn → List (Moment × Nat)
  | .ask now => if t.dueAt T now ≤ now then [(now, t.maxIdle)] else []
  | .finish _ => []

end SweeperTask

/-- The sweep that is ended in a turn: when. -/
def SweeperTurn.ended : SweeperTurn → List Moment
  | ask _ => []
  | finish now => [now]

namespace SweeperTask

variable {t t' : SweeperTask τ} {what : SweeperTurn} {begun : List (Moment × Nat)}
  {ended : List Moment} {now : Moment}

/-- A turn is a tick that is taken, a tick that is not there, or the end of a sweep. -/
theorem turn_cases (h : t.turn T what = some t') :
    (∃ now, what = .ask now ∧ t.canAsk = true ∧ t.dueAt T now ≤ now ∧
      t' = { t with timer := some (T.tick (t.timerAt T now) now), stage := .sweeping }) ∨
    (∃ now, what = .ask now ∧ t.canAsk = true ∧ now < t.dueAt T now ∧
      t' = { t with timer := some (t.timerAt T now), stage := .resting }) ∨
    ∃ now, what = .finish now ∧ t.stage = .sweeping ∧ t' = { t with stage := .asking } := by
  cases what with
  | ask now =>
    obtain ⟨may, h⟩ := Option.ite_none_right_eq_some.mp h
    obtain rfl := Option.some.inj h
    unfold asked
    by_cases there : t.dueAt T now ≤ now
    · rw [if_pos there]
      exact .inl ⟨now, rfl, may, there, rfl⟩
    · rw [if_neg there]
      exact .inr (.inl ⟨now, rfl, may, Int.lt_of_not_ge there, rfl⟩)
  | finish now =>
    obtain ⟨sweeping, finished⟩ := Option.ite_none_right_eq_some.mp h
    exact .inr (.inr ⟨now, rfl, sweeping, (Option.some.inj finished).symm⟩)

/-- No turn stops a task. -/
theorem aborts_turn (h : t.turn T what = some t') : t'.aborts = t.aborts := by
  obtain ⟨now, -, -, -, rfl⟩ | ⟨now, -, -, -, rfl⟩ | ⟨now, -, -, rfl⟩ := turn_cases h <;> rfl

/-- No turn changes what a task goes by. -/
theorem settings_turn (h : t.turn T what = some t') :
    t'.interval = t.interval ∧ t'.maxIdle = t.maxIdle := by
  obtain ⟨now, -, -, -, rfl⟩ | ⟨now, -, -, -, rfl⟩ | ⟨now, -, -, rfl⟩ := turn_cases h <;>
    exact ⟨rfl, rfl⟩

theorem not_sweeping_of_canAsk (may : t.canAsk = true) : t.stage ≠ .sweeping := by
  intro sweeping
  rw [canAsk, sweeping] at may
  cases may

/-- Where a task stands that has begun and ended these sweeps. -/
structure Paced (T : Timer τ) (t : SweeperTask τ) (begun : List (Moment × Nat))
    (ended : List Moment) : Prop where
  one_at_a_time : begun.length = ended.length + if t.stage = .sweeping then 1 else 0
  idle : ∀ x ∈ begun, x.2 = t.maxIdle
  spaced : ∀ (i j : Nat) (a b : Moment × Nat), i < j → begun[i]? = some a → begun[j]? = some b →
    a.1 + ((j - i) * t.interval : Nat) ≤ b.1 + Timer.tolerance
  unstarted : t.timer = none → begun = []
  period : ∀ timer, t.timer = some timer → T.period timer = t.interval
  /-- The next tick is as far from every sweep as the next sweep is to be, -/
  due : ∀ timer, t.timer = some timer → ∀ (i : Nat) (a : Moment × Nat), begun[i]? = some a →
    a.1 + ((begun.length - i) * t.interval : Nat) ≤ T.next timer + Timer.tolerance
  /-- and no farther from the last one than a period. -/
  soon : ∀ timer, t.timer = some timer → ∀ a : Moment × Nat, begun.getLast? = some a →
    T.next timer ≤ a.1 + t.interval

namespace Paced

theorem make (T : Timer τ) (interval maxIdle : Duration) :
    Paced T (.make interval maxIdle) [] [] where
  one_at_a_time := rfl
  idle := nofun
  spaced := nofun
  unstarted _ := rfl
  period := nofun
  due := nofun
  soon := nofun

theorem aborted (paced : Paced T t begun ended) (aborts : Nat) :
    Paced T { t with aborts } begun ended where
  one_at_a_time := paced.one_at_a_time
  idle := paced.idle
  spaced := paced.spaced
  unstarted := paced.unstarted
  period := paced.period
  due := paced.due
  soon := paced.soon

/-- What holds of the timer holds as well if the task has yet to start it. -/
theorem timerAt (periodic : T.IsPeriodic) (paced : Paced T t begun ended) (now : Moment) :
    T.period (t.timerAt T now) = t.interval ∧
      (∀ (i : Nat) (a : Moment × Nat), begun[i]? = some a →
        a.1 + ((begun.length - i) * t.interval : Nat) ≤ t.dueAt T now + Timer.tolerance) ∧
      ∀ a : Moment × Nat, begun.getLast? = some a → t.dueAt T now ≤ a.1 + t.interval := by
  unfold dueAt SweeperTask.timerAt
  cases started : t.timer with
  | none =>
    rw [paced.unstarted started]
    exact ⟨periodic.period_start _ _, nofun, nofun⟩
  | some timer => exact ⟨paced.period _ started, paced.due _ started, paced.soon _ started⟩

/-- A tick is taken. -/
theorem ticked (periodic : T.IsPeriodic) (paced : Paced T t begun ended)
    (resting : t.stage ≠ .sweeping) (there : t.dueAt T now ≤ now) :
    Paced T { t with timer := some (T.tick (t.timerAt T now) now), stage := .sweeping }
      (begun ++ [(now, t.maxIdle)]) ended := by
  obtain ⟨period, due, -⟩ := paced.timerAt periodic now
  obtain ⟨later, tolerated, soon⟩ := periodic.next_tick there
  rw [period] at later tolerated soon
  have number := paced.one_at_a_time
  rw [if_neg resting, Nat.add_zero] at number
  -- a sweep is one of the earlier ones, or the one that begins now
  constructor
  case one_at_a_time =>
    show (begun ++ [_]).length = ended.length + 1
    rw [List.length_append, number]
    rfl
  case idle =>
    intro x hx
    rcases List.mem_append.mp hx with earlier | last
    · exact paced.idle x earlier
    · rw [List.mem_singleton.mp last]
  case spaced =>
    intro i j a b before at_i at_j
    obtain ⟨at_j, known⟩ | ⟨rfl, rfl⟩ := getElem?_concat_cases at_j
    · obtain ⟨at_i, -⟩ | ⟨rfl, -⟩ := getElem?_concat_cases at_i
      · exact paced.spaced i j a b before at_i at_j
      · omega
    · obtain ⟨at_i, -⟩ | ⟨rfl, -⟩ := getElem?_concat_cases at_i
      · exact Int.le_trans (due i a at_i) (Int.add_le_add_right there _)
      · omega
  case unstarted => exact nofun
  case period =>
    rintro timer ⟨⟩
    exact (periodic.period_tick _ _).trans period
  case due =>
    rintro timer ⟨⟩ i a at_i
    rw [List.length_append, List.length_singleton]
    obtain ⟨at_i, before⟩ | ⟨rfl, rfl⟩ := getElem?_concat_cases at_i
    · have known := due i a at_i
      have one : begun.length + 1 - i = begun.length - i + 1 :=
        Nat.sub_add_comm (Nat.le_of_lt before)
      rw [one, Nat.succ_mul, Int.natCast_add]
      unfold dueAt at known
      grind
    · rw [Nat.add_sub_cancel_left, Nat.one_mul]
      exact tolerated
  case soon =>
    rintro timer ⟨⟩ a last
    rw [List.getLast?_concat] at last
    obtain rfl := Option.some.inj last
    exact soon

/-- **Every turn keeps the pace.** -/
theorem turn (periodic : T.IsPeriodic) (paced : Paced T t begun ended)
    (h : t.turn T what = some t') :
    Paced T t' (begun ++ t.began T what) (ended ++ what.ended) := by
  obtain ⟨now, rfl, may, there, rfl⟩ | ⟨now, rfl, may, early, rfl⟩ | ⟨now, rfl, sweeping, rfl⟩ :=
    turn_cases h
  · have begins : t.began T (.ask now) = [(now, t.maxIdle)] := if_pos there
    rw [begins, SweeperTurn.ended, List.append_nil]
    exact paced.ticked periodic (not_sweeping_of_canAsk may) there
  · have nothing : t.began T (.ask now) = [] := if_neg (Int.not_le.mpr early)
    obtain ⟨period, due, soon⟩ := paced.timerAt periodic now
    have number := paced.one_at_a_time
    rw [if_neg (not_sweeping_of_canAsk may)] at number
    rw [nothing, SweeperTurn.ended, List.append_nil, List.append_nil]
    refine ⟨number, paced.idle, paced.spaced, nofun, ?_, ?_, ?_⟩
    · rintro timer ⟨⟩
      exact period
    · rintro timer ⟨⟩
      exact due
    · rintro timer ⟨⟩
      exact soon
  · have number := paced.one_at_a_time
    rw [if_pos sweeping] at number
    rw [began, SweeperTurn.ended, List.append_nil]
    refine ⟨?_, paced.idle, paced.spaced, paced.unstarted, paced.period, paced.due, paced.soon⟩
    rw [List.length_append, number]
    rfl

end Paced

/-! ## Settings -/

/-- The settings that a task goes by are those that it was started with. -/
def GoesBy (t : SweeperTask τ) (interval maxIdle : Duration) : Prop :=
  t.interval = max interval.micros shortestInterval.micros ∧ t.maxIdle = maxIdle.micros

/-- The pace of a task that was started with these settings and has begun and ended these
sweeps. -/
structure Pace (T : Timer τ) (t : SweeperTask τ) (interval maxIdle : Duration)
    (begun : List (Moment × Nat)) (ended : List Moment) : Prop where
  /-- Its timer has the period that the start said, and of 100 ms at least. -/
  period : ∀ timer, t.timer = some timer → T.period timer = max interval.micros 100000
  /-- Sessions may be idle for as long as the start said. -/
  idle : ∀ x ∈ begun, x.2 = maxIdle.micros
  /-- It sweeps as soon as it runs. -/
  at_once : t.timer = none → ∀ now, (t.asked T now).stage = .sweeping
  /-- No sweep begins before the last one has ended. -/
  one_at_a_time : begun.length = ended.length + if t.stage = .sweeping then 1 else 0
  /-- From the beginning of a sweep to that of the `n`-th after it it is `n` periods, or up to
  5 ms less. -/
  spaced : ∀ (i j : Nat) (a b : Moment × Nat), i < j → begun[i]? = some a → begun[j]? = some b →
    a.1 + ((j - i) * max interval.micros 100000 : Nat) ≤ b.1 + 5000
  /-- So when it asks its timer sooner than that it gives way, -/
  rests : ∀ a : Moment × Nat, begun.getLast? = some a → ∀ now,
    now + 5000 < a.1 + (max interval.micros 100000 : Nat) → (t.asked T now).stage = .resting
  /-- and when a period has passed since the last sweep began it sweeps at once. -/
  sweeps_on : ∀ a : Moment × Nat, begun.getLast? = some a → ∀ now,
    a.1 + (max interval.micros 100000 : Nat) ≤ now → (t.asked T now).stage = .sweeping

/-- **A task keeps the pace of its settings.** -/
theorem Paced.pace {interval maxIdle : Duration} (periodic : T.IsPeriodic)
    (paced : Paced T t begun ended) (goes : t.GoesBy interval maxIdle) :
    Pace T t interval maxIdle begun ended := by
  have length : t.interval = max interval.micros 100000 := goes.1
  have ahead : ∀ now, ∀ a : Moment × Nat, begun.getLast? = some a →
      a.1 + (t.interval : Nat) ≤ t.dueAt T now + Timer.tolerance ∧
        t.dueAt T now ≤ a.1 + t.interval := by
    intro now a last
    obtain ⟨-, due, soon⟩ := paced.timerAt periodic now
    rw [List.getLast?_eq_getElem?] at last
    have filled : 0 < begun.length := Nat.zero_lt_of_lt (List.getElem?_eq_some_iff.mp last).1
    have far := due _ a last
    rw [Nat.sub_sub_self filled, Nat.one_mul] at far
    rw [← List.getLast?_eq_getElem?] at last
    exact ⟨far, soon a last⟩
  constructor
  case period => exact fun timer started => (paced.period timer started).trans length
  case idle => exact fun x hx => (paced.idle x hx).trans goes.2
  case at_once =>
    intro unstarted now
    have first : t.dueAt T now = now := by
      rw [dueAt, SweeperTask.timerAt, unstarted]
      exact periodic.first _ now
    rw [asked, if_pos (Int.le_of_eq first)]
  case one_at_a_time => exact paced.one_at_a_time
  case spaced =>
    have spaced := paced.spaced
    rw [length] at spaced
    exact spaced
  case rests =>
    intro a last now early
    obtain ⟨far, -⟩ := ahead now a last
    rw [← length] at early
    have unticked : ¬ t.dueAt T now ≤ now := by
      unfold Timer.tolerance at far
      grind
    rw [asked, if_neg unticked]
  case sweeps_on =>
    intro a last now passed
    obtain ⟨-, soon⟩ := ahead now a last
    rw [← length] at passed
    rw [asked, if_pos (Int.le_trans soon passed)]

end SweeperTask

end ShellGateway.Session
