import Mathlib.Data.Int.Init
import Mathlib.Tactic.ByContra
import Mathlib.Tactic.IntervalCases
import ShellGateway.Time.Calendar

/-!
# The calendar counts days

The calendar is a rule for the day after a date (`Date.next`). Counting by this rule from
1970-01-01, forwards and backwards, gives each date its number (`Counted`).

`daysOf` and `dateOf` come to the same without counting: a date has the number that `daysOf` says
(`counted_iff`), and `dateOf` finds the date of a number (`counted_dateOf`). Both put the years of
a cycle end to end, each beginning in March, so that the leap day is the last of its year
(`daysBefore`, `yearLength`). What year of the cycle a day lies in is then seen from the number of
days alone (`yearOfCycle_eq`), and so is the month (`monthOfYear_eq`).
-/

namespace ShellGateway.Calendar

/-- The day after a date. -/
def Date.next (d : Date) : Date :=
  if d.day < daysInMonth d.year d.month then { d with day := d.day + 1 }
  else if d.month < 12 then ⟨d.year, d.month + 1, 1⟩
  else ⟨d.year + 1, 1, 1⟩

/-- Counts the days from 1970-01-01 to a date one by one. -/
inductive Counted : Date → Int → Prop where
  | epoch : Counted ⟨1970, 1, 1⟩ 0
  | next {d : Date} {n : Int} (counted : Counted d n) : Counted d.next (n + 1)
  | previous {d : Date} {n : Int} (valid : d.valid = true) (counted : Counted d.next (n + 1)) :
      Counted d n

/-! ## Years that begin in March -/

/-- The days of a cycle before its given year. -/
def daysBefore (year : Int) : Int :=
  year * 365 + year / 4 - year / 100

/-- The days of a year of a cycle. Its last month is in the year after, as it is usually
counted. -/
def yearLength (year : Int) : Int :=
  if isLeap (year + 1) then 366 else 365

/-- The number of days without the leap days, so that every year has 365. -/
def plainDays (day : Int) : Int :=
  day - day / 1460 + day / 36524 - day / 146096

theorem isLeap_eq_true {year : Int} :
    isLeap year = true ↔ year % 4 = 0 ∧ year % 100 ≠ 0 ∨ year % 400 = 0 := by
  simp [isLeap]

/-- The next year begins when a year is over. -/
theorem daysBefore_succ {year : Int} (last : year + 1 < 400) (first : 0 ≤ year) :
    daysBefore (year + 1) = daysBefore year + yearLength year := by
  unfold daysBefore yearLength
  split <;> rename_i leap <;> rw [isLeap_eq_true] at leap <;> omega

theorem plainDays_mono {a b : Int} (h : a ≤ b) : plainDays a ≤ plainDays b := by
  unfold plainDays
  omega

/-- Without leap days a year of the cycle begins and ends where it should. -/
theorem plainDays_year {year : Int} (first : 0 ≤ year) (last : year < 400) :
    365 * year ≤ plainDays (daysBefore year) ∧
      plainDays (daysBefore year + yearLength year - 1) < 365 * (year + 1) := by
  have all : ∀ y : Fin 400, 365 * (y.val : Int) ≤ plainDays (daysBefore y.val) ∧
      plainDays (daysBefore y.val + yearLength y.val - 1) < 365 * ((y.val : Int) + 1) := by
    decide +kernel
  have here := all ⟨year.toNat, by omega⟩
  rw [show ((year.toNat : Nat) : Int) = year from Int.toNat_of_nonneg first] at here
  exact here

/-- **The year of a cycle** is seen from the number of the day. -/
theorem yearOfCycle_eq {year day : Int} (first : 0 ≤ year) (last : year < 400) (least : 0 ≤ day)
    (most : day < yearLength year) : plainDays (daysBefore year + day) / 365 = year := by
  obtain ⟨begins, ends⟩ := plainDays_year first last
  have low := plainDays_mono (show daysBefore year ≤ daysBefore year + day by omega)
  have high := plainDays_mono
    (show daysBefore year + day ≤ daysBefore year + yearLength year - 1 by omega)
  omega

/-- Every day of a cycle lies in a year. -/
theorem exists_yearOfCycle {n : Int} (least : 0 ≤ n) (most : n < 146097) :
    ∃ year day, 0 ≤ year ∧ year < 400 ∧ 0 ≤ day ∧ day < yearLength year ∧
      n = daysBefore year + day := by
  obtain ⟨year, hyear⟩ : ∃ year, year = plainDays n / 365 := ⟨_, rfl⟩
  have first : 0 ≤ year := by
    have := plainDays_mono least
    have : plainDays 0 = 0 := rfl
    omega
  have last : year < 400 := by
    have := plainDays_mono (show n ≤ 146096 by omega)
    have : plainDays 146096 = 145999 := rfl
    omega
  refine ⟨year, n - daysBefore year, first, last, ?_, ?_, by omega⟩
  · -- a day before the year would be in the year before it, or before the cycle
    by_contra early
    by_cases zero : year = 0
    · rw [zero] at early
      have : daysBefore 0 = 0 := rfl
      omega
    · have before := @daysBefore_succ (year - 1) (by omega) (by omega)
      rw [show year - 1 + 1 = year by omega] at before
      have ends := (@plainDays_year (year - 1) (by omega) (by omega)).2
      have := plainDays_mono
        (show n ≤ daysBefore (year - 1) + yearLength (year - 1) - 1 by omega)
      omega
  · -- a day after it would be in the next, or after the cycle
    by_contra late
    by_cases final : year = 399
    · rw [final] at late
      have : daysBefore 399 + yearLength 399 = 146097 := rfl
      omega
    · have after := @daysBefore_succ year (by omega) first
      have begins := (@plainDays_year (year + 1) (by omega) (by omega)).1
      have := plainDays_mono (show daysBefore (year + 1) ≤ n by omega)
      omega

/-! ## Dates by year and day -/

/-- The date of a day of a year of a cycle. -/
def dateIn (cycle year day : Int) : Date :=
  let month := (5 * day + 2) / 153
  let dayOfMonth := day - (153 * month + 2) / 5 + 1
  if month < 10 then ⟨year + cycle * 400, (month + 3).toNat, dayOfMonth.toNat⟩
  else ⟨year + cycle * 400 + 1, (month - 9).toNat, dayOfMonth.toNat⟩

/-- A day within a year of a cycle. -/
structure InCycle (year day : Int) : Prop where
  first : 0 ≤ year
  last : year < 400
  least : 0 ≤ day
  most : day < yearLength year

theorem isLeap_cycle (year cycle : Int) : isLeap (year + cycle * 400) = isLeap year := by
  rw [Bool.eq_iff_iff, isLeap_eq_true, isLeap_eq_true]
  omega

theorem dateOf_eq (days : Int) :
    dateOf days =
      let cycle := (days + epochOffset) / 146097
      let dayOfCycle := (days + epochOffset) % 146097
      let year := plainDays dayOfCycle / 365
      dateIn cycle year (dayOfCycle - daysBefore year) := by
  unfold dateIn daysBefore plainDays dateOf
  simp only [Int.mul_comm 365]

theorem InCycle.bounds {year day : Int} (within : InCycle year day) :
    0 ≤ daysBefore year + day ∧ daysBefore year + day < 146097 := by
  obtain ⟨first, last, least, most⟩ := within
  have : yearLength year ≤ 366 := by
    unfold yearLength
    split <;> decide
  unfold daysBefore
  omega

theorem dateOf_inCycle {cycle year day : Int} (within : InCycle year day) :
    dateOf (cycle * 146097 + (daysBefore year + day) - epochOffset) = dateIn cycle year day := by
  obtain ⟨low, high⟩ := within.bounds
  have found := yearOfCycle_eq within.first within.last within.least within.most
  rw [dateOf_eq, Int.sub_add_cancel]
  dsimp only
  rw [show (cycle * 146097 + (daysBefore year + day)) / 146097 = cycle by omega,
    show (cycle * 146097 + (daysBefore year + day)) % 146097 = daysBefore year + day by omega,
    found, show daysBefore year + day - daysBefore year = day by omega]

theorem daysOf_dateIn {cycle year day : Int} (within : InCycle year day) :
    daysOf (dateIn cycle year day) = cycle * 146097 + (daysBefore year + day) - epochOffset := by
  obtain ⟨first, last, least, most⟩ := within
  have : yearLength year ≤ 366 := by
    unfold yearLength
    split <;> decide
  unfold dateIn
  dsimp only
  generalize hm : (5 * day + 2) / 153 = month
  split
  · unfold daysOf daysBefore
    dsimp only
    rw [if_neg (by omega), if_neg (by omega)]
    omega
  · unfold daysOf daysBefore
    dsimp only
    rw [if_pos (by omega), if_pos (by omega)]
    omega

theorem valid_iff {d : Date} :
    d.valid = true ↔
      1 ≤ d.month ∧ d.month ≤ 12 ∧ 1 ≤ d.day ∧ d.day ≤ daysInMonth d.year d.month := by
  simp [Date.valid, and_assoc]

theorem valid_dateIn {cycle year day : Int} (within : InCycle year day) :
    (dateIn cycle year day).valid = true := by
  obtain ⟨first, last, least, most⟩ := within
  have leap := isLeap_cycle (year + 1) cycle
  rw [show year + 1 + cycle * 400 = year + cycle * 400 + 1 by omega] at leap
  rw [yearLength, ← leap] at most
  rw [valid_iff]
  unfold dateIn
  dsimp only
  generalize hm : (5 * day + 2) / 153 = month
  have low : 0 ≤ month := by omega
  have high : month ≤ 11 := by
    split at most <;> omega
  -- February is the last month and as long as the year says
  cases here : isLeap (year + cycle * 400 + 1) <;> rw [here] at most <;>
    interval_cases month <;> simp [daysInMonth, here] <;> simp at most <;> omega

/-- **The month of a year** is seen from the number of the day. -/
theorem monthOfYear_eq {month day : Int} (least : 1 ≤ day)
    (most : (153 * month + 2) / 5 + day ≤ (153 * (month + 1) + 2) / 5) :
    (5 * ((153 * month + 2) / 5 + day - 1) + 2) / 153 = month := by
  omega

/-- A date from March on is in the year of the cycle that begins in its year. -/
theorem dateIn_late {year : Int} {month day : Nat} (march : 3 ≤ month)
    (valid : (Date.mk year month day).valid = true) :
    InCycle (year % 400) ((153 * (month - 3) + 2) / 5 + day - 1) ∧
      dateIn (year / 400) (year % 400) ((153 * (month - 3) + 2) / 5 + day - 1) =
        ⟨year, month, day⟩ := by
  obtain ⟨-, december, one, most⟩ := valid_iff.mp valid
  have short : (153 * ((month : Int) - 3) + 2) / 5 + day ≤
      (153 * ((month : Int) - 3 + 1) + 2) / 5 := by
    dsimp only at *
    interval_cases month <;> simp [daysInMonth] at most <;> simp <;> omega
  constructor
  · have : 365 ≤ yearLength (year % 400) := by
      unfold yearLength
      split <;> decide
    dsimp only at *
    constructor <;> omega
  · unfold dateIn
    dsimp only
    rw [monthOfYear_eq (by dsimp only at one; omega) short, if_pos (by dsimp only at *; omega)]
    simp only [Date.mk.injEq]
    omega

/-- A date before March is in the year of the cycle that begins in the year before. -/
theorem dateIn_early {year : Int} {month day : Nat} (early : month ≤ 2)
    (valid : (Date.mk year month day).valid = true) :
    InCycle ((year - 1) % 400) ((153 * (month + 9) + 2) / 5 + day - 1) ∧
      dateIn ((year - 1) / 400) ((year - 1) % 400) ((153 * (month + 9) + 2) / 5 + day - 1) =
        ⟨year, month, day⟩ := by
  obtain ⟨january, -, one, most⟩ := valid_iff.mp valid
  have leap := isLeap_cycle ((year - 1) % 400 + 1) ((year - 1) / 400)
  rw [show (year - 1) % 400 + 1 + (year - 1) / 400 * 400 = year by omega] at leap
  dsimp only at *
  have short : (153 * ((month : Int) + 9) + 2) / 5 + day ≤
      (153 * ((month : Int) + 9 + 1) + 2) / 5 := by
    cases here : isLeap year <;> interval_cases month <;> simp [daysInMonth, here] at most <;>
      simp <;> omega
  constructor
  · refine ⟨by omega, by omega, by omega, ?_⟩
    unfold yearLength
    rw [← leap]
    cases here : isLeap year <;> interval_cases month <;> simp [daysInMonth, here] at most <;>
      simp <;> omega
  · unfold dateIn
    dsimp only
    rw [monthOfYear_eq (by omega) short, if_neg (by omega)]
    simp only [Date.mk.injEq]
    omega

/-- Every date lies in a year of a cycle. -/
theorem exists_dateIn {d : Date} (valid : d.valid = true) :
    ∃ cycle year day, InCycle year day ∧ d = dateIn cycle year day := by
  by_cases early : d.month ≤ 2
  · obtain ⟨within, same⟩ := dateIn_early early valid
    exact ⟨_, _, _, within, same.symm⟩
  · obtain ⟨within, same⟩ := dateIn_late (by omega) valid
    exact ⟨_, _, _, within, same.symm⟩

/-! ## Numbers and dates -/

/-- **The date of a number has that number.** -/
theorem daysOf_dateOf (n : Int) : (dateOf n).valid = true ∧ daysOf (dateOf n) = n := by
  obtain ⟨year, day, first, last, least, most, split⟩ :=
    exists_yearOfCycle (n := (n + epochOffset) % 146097) (by omega) (by omega)
  have within : InCycle year day := ⟨first, last, least, most⟩
  have whole : n = (n + epochOffset) / 146097 * 146097 + (daysBefore year + day) - epochOffset := by
    omega
  have found := @dateOf_inCycle ((n + epochOffset) / 146097) _ _ within
  rw [← whole] at found
  rw [found, daysOf_dateIn within, ← whole]
  exact ⟨valid_dateIn within, rfl⟩

/-- **A date is found by its number.** -/
theorem dateOf_daysOf {d : Date} (valid : d.valid = true) : dateOf (daysOf d) = d := by
  obtain ⟨cycle, year, day, within, rfl⟩ := exists_dateIn valid
  rw [daysOf_dateIn within, dateOf_inCycle within]

theorem daysInMonth_le (year : Int) (month : Nat) : daysInMonth year month ≤ 31 := by
  unfold daysInMonth
  split
  · split <;> decide
  all_goals decide

theorem one_le_daysInMonth (year : Int) (month : Nat) : 1 ≤ daysInMonth year month := by
  unfold daysInMonth
  split
  · split <;> decide
  all_goals decide

/-- The first of a month has the next number after the last of the month before. -/
theorem daysOf_month {year : Int} {month : Nat} (january : 1 ≤ month) (other : month < 12) :
    daysOf ⟨year, month + 1, 1⟩ = daysOf ⟨year, month, daysInMonth year month⟩ + 1 := by
  by_cases february : month = 2
  · -- the year that begins in March is one later
    subst february
    have rule := @isLeap_eq_true year
    cases leap : isLeap year <;> simp only [leap, reduceCtorEq, false_iff, true_iff] at rule <;>
      simp [daysOf, daysInMonth, leap] <;> omega
  · unfold daysOf
    interval_cases month <;> simp [daysInMonth] <;> omega

theorem daysOf_year (year : Int) : daysOf ⟨year + 1, 1, 1⟩ = daysOf ⟨year, 12, 31⟩ + 1 := by
  unfold daysOf
  simp
  omega

/-- The day after a date is a date, and has the next number. -/
theorem daysOf_next {d : Date} (valid : d.valid = true) :
    d.next.valid = true ∧ daysOf d.next = daysOf d + 1 := by
  obtain ⟨january, december, one, most⟩ := valid_iff.mp valid
  obtain ⟨year, month, day⟩ := d
  unfold Date.next
  dsimp only at *
  by_cases inside : day < daysInMonth year month
  · rw [if_pos inside, valid_iff]
    refine ⟨⟨january, december, Nat.le_add_left 1 day, inside⟩, ?_⟩
    unfold daysOf
    dsimp only
    omega
  · obtain rfl : day = daysInMonth year month := by omega
    rw [if_neg inside]
    by_cases other : month < 12
    · rw [if_pos other, valid_iff]
      exact ⟨⟨Nat.le_add_left 1 month, other, Nat.le_refl 1, one_le_daysInMonth _ _⟩,
        daysOf_month january other⟩
    · obtain rfl : month = 12 := by omega
      rw [if_neg other]
      exact ⟨rfl, daysOf_year year⟩

/-- **Counting comes to what is calculated.** -/
theorem counted_iff {d : Date} {n : Int} : Counted d n ↔ d.valid = true ∧ daysOf d = n := by
  constructor
  · intro counted
    induction counted with
    | epoch => exact ⟨rfl, rfl⟩
    | next counted ih =>
      obtain ⟨valid, number⟩ := daysOf_next ih.1
      exact ⟨valid, number.trans (congrArg (· + 1) ih.2)⟩
    | previous valid counted ih =>
      have := (daysOf_next valid).2
      exact ⟨valid, by omega⟩
  · rintro ⟨valid, rfl⟩
    -- dates are reached by counting on from the first, or back
    have all : ∀ n, Counted (dateOf n) n := by
      intro n
      have after : ∀ n, (dateOf n).next = dateOf (n + 1) := by
        intro n
        obtain ⟨valid, number⟩ := daysOf_dateOf n
        obtain ⟨valid', number'⟩ := daysOf_next valid
        rw [← dateOf_daysOf valid', number', number]
      induction n using Int.induction_on with
      | zero => exact .epoch
      | succ n ih =>
        rw [← after]
        exact ih.next
      | pred n ih =>
        refine .previous (daysOf_dateOf _).1 ?_
        rw [after, Int.sub_add_cancel]
        exact ih
    have counted := all (daysOf d)
    rw [dateOf_daysOf valid] at counted
    exact counted

end ShellGateway.Calendar
