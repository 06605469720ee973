import ShellGateway.Proofs.Text.Digits
import ShellGateway.Proofs.Time.Calendar
import ShellGateway.Time.Instant

/-!
# Date-times in RFC 3339

What a date-time is made of is said part by part: numbers of so many digits (`Digits`), a fraction
that is cut to nanoseconds (`Fraction`), an offset from universal time in whole minutes of less
than a day (`Zone`). Put together they say an instant (`DateTime`): the days of the date as the
calendar counts them, and the time of that day less the offset. The second 60 is a leap second,
which the second before it is prolonged by.

The reader takes exactly these texts and finds the instants that they say
(`parse?_eq_some`).

Written at any offset at which the year has four digits, an instant is such a date-time
(`dateTime_clockText`).
-/

namespace ShellGateway.Instant

open Digit (IsDecimal)

/-! ## Parts of a date-time -/

/-- A number in so many decimal digits. -/
structure Digits (width n : Nat) (s : List Char) : Prop where
  length : s.length = width
  decimal : ∀ c ∈ s, IsDecimal c
  number : n = Digit.number s

/-- The fraction of a second in nanoseconds: as many digits as one likes, of which nine count. -/
inductive Fraction : List Char → Nat → Prop where
  | none : Fraction [] 0
  | digits {s : List Char} (nonempty : s ≠ []) (decimal : ∀ c ∈ s, IsDecimal c) :
      Fraction ('.' :: s) (Digit.number ((s ++ List.replicate 9 '0').take 9))

/-- The signs of an offset: ahead of universal time, or behind it. -/
inductive Sign : Char → Int → Prop where
  | ahead : Sign '+' 1
  | behind : Sign '-' (-1)
  | behindMinus : Sign '\u2212' (-1)

/-- An offset from universal time, in seconds. -/
inductive Zone : List Char → Int → Prop where
  | universal : Zone ['Z'] 0
  | universalSmall : Zone ['z'] 0
  | offset {sign : Char} {factor : Int} {hh mm : List Char} {hours minutes : Nat}
      (signed : Sign sign factor) (hour : Digits 2 hours hh) (minute : Digits 2 minutes mm)
      (day : hours < 24) (whole : minutes < 60) :
      Zone (sign :: hh ++ ':' :: mm) (factor * (hours * 3600 + minutes * 60 : Nat))

/-- The instant that is said by a number of days, a time of day and an offset. The second 60 is
kept as the second before it and as many nanoseconds more. -/
def ofParts (days : Int) (hour minute second nano : Nat) (offset : Int) : Instant where
  second := days * 86400 + (hour * 3600 + minute * 60 + min second 59 : Nat) - offset
  nano := (if second = 60 then 1000000000 else 0) + nano

/-- A date-time and the instant that it says. -/
inductive DateTime : List Char → Instant → Prop where
  | parts {yyyy mm dd hh mi ss fraction zone : List Char} {between : Char}
      {year month day hour minute second nano : Nat} {days offset : Int}
      (isYear : Digits 4 year yyyy) (isMonth : Digits 2 month mm) (isDay : Digits 2 day dd)
      (isBetween : between ∈ ['T', 't', ' '])
      (isHour : Digits 2 hour hh) (isMinute : Digits 2 minute mi) (isSecond : Digits 2 second ss)
      (isFraction : Fraction fraction nano) (isZone : Zone zone offset)
      (counted : Calendar.Counted ⟨year, month, day⟩ days)
      (hours : hour < 24) (minutes : minute < 60) (seconds : second ≤ 60) :
      DateTime (yyyy ++ '-' :: (mm ++ '-' :: (dd ++ between :: (hh ++ ':' :: (mi ++ ':' ::
        (ss ++ (fraction ++ zone)))))))
        (ofParts days hour minute second nano offset)

section

variable {s rest : List Char} {n width : Nat} {β : Type} {b : β} {f : Nat × List Char → Option β}

/-! ## Each part is taken from the front -/

theorem takeDigits_eq_some (wide : 0 < width) :
    takeDigits width s = some (n, rest) ↔ ∃ digits, Digits width n digits ∧ s = digits ++ rest := by
  unfold takeDigits
  dsimp only
  constructor
  · intro h
    split at h
    · rename_i length
      obtain ⟨m, read, same⟩ := Option.map_eq_some_iff.mp h
      obtain ⟨rfl, rfl⟩ := Prod.mk.inj same
      obtain ⟨-, decimal, number⟩ := Digit.read?_ten_eq_some.mp read
      exact ⟨s.take width, ⟨length, decimal, number⟩, (List.take_append_drop width s).symm⟩
    · cases h
  · rintro ⟨digits, ⟨length, decimal, number⟩, rfl⟩
    have nonempty : digits ≠ [] := by
      rintro rfl
      rw [← length] at wide
      cases wide
    rw [List.take_left' length, List.drop_left' length, if_pos length,
      Digit.read?_ten_eq_some.mpr ⟨nonempty, decimal, number⟩]
    rfl

theorem takeOneOf_eq_some {allowed : List Char} :
    takeOneOf allowed s = some rest ↔ ∃ c ∈ allowed, s = c :: rest := by
  cases s with
  | nil => simp [takeOneOf]
  | cons c s =>
    unfold takeOneOf
    dsimp only
    constructor
    · intro h
      split at h
      · rename_i member
        obtain rfl := Option.some.inj h
        exact ⟨c, List.contains_iff_mem.mp member, rfl⟩
      · cases h
    · rintro ⟨c', member, same⟩
      obtain ⟨rfl, rfl⟩ := List.cons.inj same
      rw [if_pos (List.contains_iff_mem.mpr member)]

/-- What is made of the number that comes first and of the rest. -/
theorem bind_takeDigits_eq_some (wide : 0 < width) :
    takeDigits width s >>= f = some b ↔
      ∃ n digits rest, Digits width n digits ∧ s = digits ++ rest ∧ f (n, rest) = some b := by
  simp only [Option.bind_eq_bind, Option.bind_eq_some_iff, Prod.exists, takeDigits_eq_some wide]
  constructor
  · rintro ⟨n, rest, ⟨digits, isDigits, rfl⟩, h⟩
    exact ⟨n, digits, rest, isDigits, rfl, h⟩
  · rintro ⟨n, digits, rest, isDigits, rfl, h⟩
    exact ⟨n, rest, ⟨digits, isDigits, rfl⟩, h⟩

/-- What is made of the two digits that come after a mark, and of the rest. -/
theorem bind_marked_eq_some {allowed : List Char} :
    (do f (← takeDigits 2 (← takeOneOf allowed s))) = some b ↔
      ∃ mark n digits rest, mark ∈ allowed ∧ Digits 2 n digits ∧
        s = mark :: (digits ++ rest) ∧ f (n, rest) = some b := by
  rw [Option.bind_eq_bind, Option.bind_eq_some_iff]
  simp only [bind_takeDigits_eq_some (Nat.succ_pos 1), takeOneOf_eq_some]
  constructor
  · rintro ⟨_, ⟨mark, member, rfl⟩, n, digits, rest, isDigits, rfl, h⟩
    exact ⟨mark, n, digits, rest, member, isDigits, rfl, h⟩
  · rintro ⟨mark, n, digits, rest, member, isDigits, rfl, h⟩
    exact ⟨_, ⟨mark, member, rfl⟩, n, digits, rest, isDigits, rfl, h⟩

/-- The nine digits that count. -/
theorem number_kept (s : List Char) :
    Digit.number ((s ++ List.replicate 9 '0').take 9) =
      Digit.number (s.take 9) * Nat.pow 10 (9 - (s.take 9).length) := by
  rw [List.take_append, ← Digit.number_append_zeros, List.take_replicate]
  congr 3
  rw [List.length_take]
  omega

/-- A fraction ends where no digit goes on. -/
theorem takeFraction_of_fraction {fraction : List Char} {nano : Nat}
    (isFraction : Fraction fraction nano)
    (stop : ∀ c ∈ rest.head?, c ≠ '.' ∧ Digit.value? 10 c = none) :
    takeFraction (fraction ++ rest) = some (nano, rest) := by
  cases isFraction with
  | none =>
    unfold takeFraction
    split
    · rename_i rest' h
      exact absurd rfl (stop '.' (by rw [← List.nil_append rest, h]; rfl)).1
    · rfl
  | @digits s nonempty decimal =>
    have run : Digit.span 10 (s ++ rest) = (s, rest) :=
      Digit.span_append
        (fun c hc => by rw [Digit.value?_ten_eq_some.mpr ⟨decimal c hc, rfl⟩]; rfl)
        fun c hc => (stop c hc).2
    have kept : s.take 9 ≠ [] := by
      rw [Ne, List.take_eq_nil_iff]
      exact fun h => h.elim (by decide) nonempty
    have read := Digit.read?_ten_eq_some.mpr
      ⟨kept, fun c hc => decimal c (List.mem_of_mem_take hc), rfl⟩
    show takeFraction ('.' :: (s ++ rest)) = _
    simp only [takeFraction, run, read, Option.map_some, number_kept]

/-- What is taken as a fraction is one. -/
theorem exists_fraction {nano : Nat} (h : takeFraction s = some (nano, rest)) :
    ∃ fraction, Fraction fraction nano ∧ s = fraction ++ rest := by
  unfold takeFraction at h
  split at h
  · rename_i s
    obtain ⟨decimal, split⟩ := Digit.span_spec 10 s
    cases run : Digit.span 10 s with
    | mk digits tail =>
      rw [run] at h decimal split
      obtain ⟨n, read, same⟩ := Option.map_eq_some_iff.mp h
      obtain ⟨rfl, rfl⟩ := Prod.mk.inj same
      obtain ⟨kept, -, rfl⟩ := Digit.read?_ten_eq_some.mp read
      refine ⟨'.' :: digits, ?_, congrArg _ split.symm⟩
      rw [← number_kept]
      refine .digits (fun none => kept (by rw [none]; rfl)) fun c hc => ?_
      obtain ⟨d, value⟩ := Option.isSome_iff_exists.mp (decimal c hc)
      exact (Digit.value?_ten_eq_some.mp value).1
  · obtain ⟨rfl, rfl⟩ := Prod.mk.inj (Option.some.inj h)
    exact ⟨[], .none, rfl⟩

/-- Takes the hours and minutes that follow the sign of an offset. -/
def takeHoursMinutes (factor : Int) (s : List Char) : Option (Int × List Char) := do
  let (hours, s) ← takeDigits 2 s
  let (minutes, s) ← takeDigits 2 (← takeOneOf [':'] s)
  if hours < 24 ∧ minutes < 60 then
    some (factor * (hours * 3600 + minutes * 60 : Nat), s)
  else none

theorem takeHoursMinutes_eq_some {factor offset : Int} :
    takeHoursMinutes factor s = some (offset, rest) ↔
      ∃ hh mm hours minutes, Digits 2 hours hh ∧ Digits 2 minutes mm ∧ hours < 24 ∧
        minutes < 60 ∧ s = hh ++ ':' :: (mm ++ rest) ∧
        offset = factor * (hours * 3600 + minutes * 60 : Nat) := by
  have two : 0 < 2 := by decide
  constructor
  · intro h
    obtain ⟨hours, hh, s, hour, rfl, minuteOn⟩ := (bind_takeDigits_eq_some two).mp h
    obtain ⟨_, minutes, mm, s, colon, minute, rfl, same⟩ := bind_marked_eq_some.mp minuteOn
    obtain rfl := List.mem_singleton.mp colon
    dsimp only at same
    split at same
    · rename_i inDay
      obtain ⟨rfl, rfl⟩ := Prod.mk.inj (Option.some.inj same)
      exact ⟨hh, mm, hours, minutes, hour, minute, inDay.1, inDay.2, rfl, rfl⟩
    · cases same
  · rintro ⟨hh, mm, hours, minutes, hour, minute, day, whole, rfl, rfl⟩
    have colon := List.mem_singleton_self ':'
    refine (bind_takeDigits_eq_some two).mpr ⟨hours, hh, _, hour, rfl, ?_⟩
    refine bind_marked_eq_some.mpr ⟨':', minutes, mm, _, colon, minute, rfl, ?_⟩
    exact if_pos ⟨day, whole⟩

theorem exists_zone {sign : Char} {factor offset : Int} (signed : Sign sign factor)
    (h : takeHoursMinutes factor s = some (offset, rest)) :
    ∃ zone, Zone zone offset ∧ sign :: s = zone ++ rest := by
  obtain ⟨hh, mm, hours, minutes, hour, minute, day, whole, rfl, rfl⟩ :=
    takeHoursMinutes_eq_some.mp h
  exact ⟨_, .offset signed hour minute day whole, by simp⟩

/-- Offsets are taken from the front, and nothing else is. -/
theorem takeOffset_eq_some {offset : Int} :
    takeOffset s = some (offset, rest) ↔ ∃ zone, Zone zone offset ∧ s = zone ++ rest := by
  constructor
  · intro h
    unfold takeOffset at h
    split at h
    · rename_i universal
      obtain ⟨rfl, rfl⟩ := Prod.mk.inj (Option.some.inj h)
      obtain ⟨c, member, rfl⟩ := takeOneOf_eq_some.mp universal
      rcases List.mem_cons.mp member with rfl | member
      · exact ⟨_, .universal, rfl⟩
      · obtain rfl := List.mem_singleton.mp member
        exact ⟨_, .universalSmall, rfl⟩
    · split at h
      · exact exists_zone .ahead h
      · exact exists_zone .behind h
      · exact exists_zone .behindMinus h
      · cases h
  · rintro ⟨zone, isZone, rfl⟩
    cases isZone with
    | universal => rfl
    | universalSmall => rfl
    | @offset sign factor hh mm hours minutes signed hour minute day whole =>
      have taken : takeHoursMinutes factor (hh ++ ':' :: (mm ++ rest)) =
          some (factor * (hours * 3600 + minutes * 60 : Nat), rest) :=
        takeHoursMinutes_eq_some.mpr
          ⟨hh, mm, hours, minutes, hour, minute, day, whole, rfl, rfl⟩
      rw [show sign :: hh ++ ':' :: mm ++ rest = sign :: (hh ++ ':' :: (mm ++ rest)) by simp]
      cases signed <;> exact taken

/-- An offset begins with its sign or with a `Z`, which no fraction goes on with. -/
theorem Zone.head {zone : List Char} {offset : Int} (isZone : Zone zone offset) :
    ∀ c ∈ zone.head?, c ≠ '.' ∧ Digit.value? 10 c = none := by
  cases isZone with
  | universal =>
    rintro _ ⟨⟩
    decide
  | universalSmall =>
    rintro _ ⟨⟩
    decide
  | offset signed hour minute day whole =>
    rintro _ ⟨⟩
    cases signed <;> decide

/-- **Date-times are read, and nothing else is.** -/
theorem parse?_eq_some {text : String} {t : Instant} :
    parse? text = some t ↔ DateTime text.toList t := by
  unfold parse?
  have four : 0 < 4 := by decide
  constructor
  · intro h
    obtain ⟨year, yyyy, s, isYear, whole, monthOn⟩ := (bind_takeDigits_eq_some four).mp h
    obtain ⟨_, month, mm, s, hyphen, isMonth, rfl, dayOn⟩ := bind_marked_eq_some.mp monthOn
    obtain rfl := List.mem_singleton.mp hyphen
    obtain ⟨_, day, dd, s, hyphen, isDay, rfl, hourOn⟩ := bind_marked_eq_some.mp dayOn
    obtain rfl := List.mem_singleton.mp hyphen
    obtain ⟨between, hour, hh, s, isBetween, isHour, rfl, minuteOn⟩ :=
      bind_marked_eq_some.mp hourOn
    obtain ⟨_, minute, mi, s, colon, isMinute, rfl, secondOn⟩ := bind_marked_eq_some.mp minuteOn
    obtain rfl := List.mem_singleton.mp colon
    obtain ⟨_, second, ss, s, colon, isSecond, rfl, fractionOn⟩ := bind_marked_eq_some.mp secondOn
    obtain rfl := List.mem_singleton.mp colon
    obtain ⟨⟨nano, s⟩, takenFraction, zoneOn⟩ := Option.bind_eq_some_iff.mp fractionOn
    obtain ⟨fraction, isFraction, rfl⟩ := exists_fraction takenFraction
    obtain ⟨⟨offset, s⟩, takenZone, same⟩ := Option.bind_eq_some_iff.mp zoneOn
    obtain ⟨zone, isZone, rfl⟩ := takeOffset_eq_some.mp takenZone
    dsimp only at same
    split at same
    · rename_i good
      obtain ⟨last, valid, hours, minutes, seconds⟩ := good
      obtain rfl := List.isEmpty_iff.mp last
      obtain rfl := Option.some.inj same
      rw [whole, List.append_nil]
      exact .parts isYear isMonth isDay isBetween isHour isMinute isSecond
        isFraction isZone (Calendar.counted_iff.mpr ⟨valid, rfl⟩) hours minutes seconds
    · cases same
  · intro isDateTime
    generalize text.toList = s at isDateTime
    cases isDateTime with
    | @parts yyyy mm dd hh mi ss fraction zone between year month day hour minute second nano days
        offset isYear isMonth isDay isBetween isHour isMinute isSecond isFraction isZone counted
        hours minutes seconds =>
      obtain ⟨valid, rfl⟩ := Calendar.counted_iff.mp counted
      have hyphen := List.mem_singleton_self '-'
      have colon := List.mem_singleton_self ':'
      refine (bind_takeDigits_eq_some four).mpr ⟨year, yyyy, _, isYear, rfl, ?_⟩
      refine bind_marked_eq_some.mpr ⟨'-', month, mm, _, hyphen, isMonth, rfl, ?_⟩
      refine bind_marked_eq_some.mpr ⟨'-', day, dd, _, hyphen, isDay, rfl, ?_⟩
      refine bind_marked_eq_some.mpr ⟨between, hour, hh, _, isBetween, isHour, rfl, ?_⟩
      refine bind_marked_eq_some.mpr ⟨':', minute, mi, _, colon, isMinute, rfl, ?_⟩
      refine bind_marked_eq_some.mpr ⟨':', second, ss, _, colon, isSecond, rfl, ?_⟩
      have ofFraction := takeFraction_of_fraction isFraction isZone.head
      have ofZone : takeOffset zone = some (offset, []) :=
        takeOffset_eq_some.mpr ⟨zone, isZone, (List.append_nil zone).symm⟩
      refine Option.bind_eq_some_iff.mpr ⟨_, ofFraction, ?_⟩
      refine Option.bind_eq_some_iff.mpr ⟨_, ofZone, ?_⟩
      exact if_pos ⟨rfl, valid, hours, minutes, seconds⟩

end

/-! ## Instants are written as date-times -/

/-- The nanoseconds belong to the second, or to a leap second that prolongs the last second of a
minute. -/
structure WellFormed (t : Instant) : Prop where
  bound : t.nano < 2000000000
  leap : 1000000000 ≤ t.nano → t.second % 60 = 59

theorem Fraction.lt {fraction : List Char} {nano : Nat} (isFraction : Fraction fraction nano) :
    nano < 1000000000 := by
  cases isFraction with
  | none => decide
  | @digits s nonempty decimal =>
    have kept : ∀ c ∈ (s ++ List.replicate 9 '0').take 9, IsDecimal c := by
      intro c hc
      rcases List.mem_append.mp (List.mem_of_mem_take hc) with digit | zero
      · exact decimal c digit
      · rw [List.eq_of_mem_replicate zero]
        exact ⟨by decide, by decide⟩
    have nine : ((s ++ List.replicate 9 '0').take 9).length = 9 := by
      rw [List.length_take, List.length_append, List.length_replicate]
      omega
    have below := Digit.read?_lt (Digit.read?_ten_eq_some.mpr
      ⟨List.ne_nil_of_length_pos (by omega), kept, rfl⟩)
    rwa [nine] at below

/-- Date-times say nothing else. -/
theorem DateTime.wellFormed {s : List Char} {t : Instant} (isDateTime : DateTime s t) :
    t.WellFormed := by
  cases isDateTime with
  | @parts _ _ _ _ _ _ _ zone _ _ _ _ hour minute second nano days offset _ _ _ _ _ _ _ isFraction
      isZone _ _ _ _ =>
    have small := isFraction.lt
    have minutes : offset % 60 = 0 := by
      cases isZone with
      | universal => rfl
      | universalSmall => rfl
      | offset signed => cases signed <;> omega
    unfold ofParts
    constructor
    · dsimp only
      split <;> omega
    · dsimp only
      split
      · omega
      · intro leap
        omega

/-- What clocks show that are the given minutes ahead of universal time, without the offset. -/
def clockText (offset : Int) (t : Instant) : List Char :=
  let shown := t.second + offset * 60
  let date := Calendar.dateOf (shown / 86400)
  let ofDay := (shown % 86400).toNat
  yearText date.year ++ '-' :: (padded 2 date.month ++ '-' :: (padded 2 date.day
    ++ 'T' :: (padded 2 (ofDay / 3600) ++ ':' :: (padded 2 (ofDay / 60 % 60)
    ++ ':' :: (padded 2 (ofDay % 60 + t.nano / 1000000000)
    ++ fractionText (t.nano % 1000000000))))))

theorem toTextAt_eq (offset : Int) (t : Instant) :
    t.toTextAt offset = String.ofList (clockText offset t ++ offsetText offset) := by
  unfold toTextAt clockText
  simp only [List.append_assoc, List.cons_append]

theorem digits_padded (width n : Nat) (small : n < Nat.pow 10 width) (wide : 0 < width) :
    Digits width n (padded width n) where
  length := by
    have := Digit.length_write_le (by decide) small wide
    unfold padded
    rw [List.length_append, List.length_replicate]
    omega
  decimal := by
    unfold padded
    intro c hc
    rcases List.mem_append.mp hc with zero | digit
    · rw [List.eq_of_mem_replicate zero]
      exact ⟨by decide, by decide⟩
    · exact Digit.isDecimal_of_mem_write digit
  number := by
    unfold padded
    rw [Digit.number_zeros_append, Digit.number_write]

theorem digits_two {n : Nat} (small : n < 100) : Digits 2 n (padded 2 n) :=
  digits_padded 2 n small (by decide)

theorem fraction_padded (width n : Nat) (small : n < Nat.pow 10 width) (wide : 0 < width)
    (most : width ≤ 9) : Fraction ('.' :: padded width n) (n * Nat.pow 10 (9 - width)) := by
  have isDigits := digits_padded width n small wide
  have nonempty : padded width n ≠ [] := by
    rw [← List.length_pos_iff, isDigits.length]
    exact wide
  have whole : (padded width n).take 9 = padded width n :=
    List.take_of_length_le (by rw [isDigits.length]; exact most)
  have isFraction := Fraction.digits nonempty isDigits.decimal
  rwa [number_kept, whole, isDigits.length, ← isDigits.number] at isFraction

theorem fraction_fractionText {nano : Nat} (small : nano < 1000000000) :
    Fraction (fractionText nano) nano := by
  unfold fractionText
  split
  · rename_i none
    rw [none]
    exact .none
  · split
    · rename_i millis
      have isFraction := fraction_padded 3 (nano / 1000000)
        (by show _ < 1000; omega) (by decide) (by decide)
      rwa [show nano / 1000000 * Nat.pow 10 (9 - 3) = nano by show _ * 1000000 = _; omega]
        at isFraction
    · split
      · rename_i micros
        have isFraction := fraction_padded 6 (nano / 1000)
          (by show _ < 1000000; omega) (by decide) (by decide)
        rwa [show nano / 1000 * Nat.pow 10 (9 - 6) = nano by show _ * 1000 = _; omega]
          at isFraction
      · have isFraction := fraction_padded 9 nano small (by decide) (by decide)
        rwa [show nano * Nat.pow 10 (9 - 9) = nano by show _ * 1 = _; omega] at isFraction

/-- An offset of less than a day is written as one. -/
theorem zone_offsetText {minutes : Int} (day : minutes.natAbs < 1440) :
    Zone (offsetText minutes) (minutes * 60) := by
  unfold offsetText
  split
  · rename_i universal
    rw [universal]
    exact .universal
  · have hour : Digits 2 (minutes.natAbs / 60) (padded 2 (minutes.natAbs / 60)) :=
      digits_two (by omega)
    have minute : Digits 2 (minutes.natAbs % 60) (padded 2 (minutes.natAbs % 60)) :=
      digits_two (by omega)
    split
    · have isZone := Zone.offset .behind hour minute (by omega) (by omega)
      rwa [show (-1) * ((minutes.natAbs / 60 * 3600 + minutes.natAbs % 60 * 60 : Nat) : Int) =
        minutes * 60 by omega] at isZone
    · have isZone := Zone.offset .ahead hour minute (by omega) (by omega)
      rwa [show 1 * ((minutes.natAbs / 60 * 3600 + minutes.natAbs % 60 * 60 : Nat) : Int) =
        minutes * 60 by omega] at isZone

/-- A time of day and its date say the instant that they are shown for. -/
theorem ofParts_shown {t : Instant} {offset : Int} {ofDay : Nat} (wellFormed : t.WellFormed)
    (time : (t.second + offset * 60) % 86400 = ofDay) :
    ofParts ((t.second + offset * 60) / 86400) (ofDay / 3600) (ofDay / 60 % 60)
      (ofDay % 60 + t.nano / 1000000000) (t.nano % 1000000000) (offset * 60) = t := by
  obtain ⟨second, nano⟩ := t
  obtain ⟨bound, leap⟩ := wellFormed
  unfold ofParts
  dsimp only at bound leap time ⊢
  by_cases within : nano < 1000000000
  · rw [if_neg (by omega)]
    congr 1 <;> omega
  · have last := leap (by omega)
    rw [if_pos (by omega)]
    congr 1 <;> omega

/-- **What clocks show in a year of four digits is a date-time of the instant**, whichever way the
offset is written. -/
theorem dateTime_clockText {t : Instant} {offset : Int} {zone : List Char} {date : Calendar.Date}
    (wellFormed : t.WellFormed) (isZone : Zone zone (offset * 60))
    (shown : Calendar.Counted date ((t.second + offset * 60) / 86400))
    (first : 0 ≤ date.year) (last : date.year ≤ 9999) :
    DateTime (clockText offset t ++ zone) t := by
  obtain ⟨valid, days⟩ := Calendar.counted_iff.mp shown
  have dateOf : Calendar.dateOf ((t.second + offset * 60) / 86400) = date := by
    rw [← days, Calendar.dateOf_daysOf valid]
  obtain ⟨-, december, -, most⟩ := Calendar.valid_iff.mp valid
  have lastDay := Calendar.daysInMonth_le date.year date.month
  have leapSecond := wellFormed.leap
  have bound := wellFormed.bound
  -- the time of day, in seconds
  obtain ⟨ofDay, time⟩ : ∃ ofDay : Nat, (t.second + offset * 60) % 86400 = ofDay :=
    ⟨_, (Int.toNat_of_nonneg (by omega)).symm⟩
  have isYear : Digits 4 date.year.toNat (padded 4 date.year.toNat) :=
    digits_padded 4 _ (by show _ < 10000; omega) (by decide)
  have isMonth : Digits 2 date.month (padded 2 date.month) := digits_two (by omega)
  have isDay : Digits 2 date.day (padded 2 date.day) := digits_two (by omega)
  have isHour : Digits 2 (ofDay / 3600) (padded 2 (ofDay / 3600)) := digits_two (by omega)
  have isMinute : Digits 2 (ofDay / 60 % 60) (padded 2 (ofDay / 60 % 60)) := digits_two (by omega)
  have isSecond : Digits 2 (ofDay % 60 + t.nano / 1000000000)
      (padded 2 (ofDay % 60 + t.nano / 1000000000)) := digits_two (by omega)
  have isFraction := fraction_fractionText (Nat.mod_lt t.nano (by decide))
  have between : 'T' ∈ ['T', 't', ' '] := List.mem_cons_self
  have counted : Calendar.Counted ⟨date.year.toNat, date.month, date.day⟩
      ((t.second + offset * 60) / 86400) := by rwa [Int.toNat_of_nonneg first]
  have isDateTime := DateTime.parts isYear isMonth isDay between isHour isMinute isSecond
    isFraction isZone counted (by omega) (by omega) (by omega)
  rw [ofParts_shown wellFormed time] at isDateTime
  unfold clockText
  dsimp only
  rw [dateOf, yearText, if_pos ⟨first, last⟩, time, Int.toNat_natCast]
  simpa only [List.append_assoc, List.cons_append] using isDateTime

/-- What is written is read back. -/
theorem parse?_toTextAt {t : Instant} {offset : Int} {date : Calendar.Date}
    (wellFormed : t.WellFormed) (day : offset.natAbs < 1440)
    (shown : Calendar.Counted date ((t.second + offset * 60) / 86400))
    (first : 0 ≤ date.year) (last : date.year ≤ 9999) :
    parse? (t.toTextAt offset) = some t := by
  rw [toTextAt_eq, parse?_eq_some, String.toList_ofList]
  exact dateTime_clockText wellFormed (zone_offsetText day) shown first last

end ShellGateway.Instant
