import Mathlib.Algebra.GroupWithZero.Nat
import Mathlib.Data.List.Induction
import Mathlib.Data.List.TakeDrop
import Mathlib.Data.List.TakeWhile
import ShellGateway.Text.Digit

/-!
# Numbers and their digits

Whatever number is written, in whatever base up to sixteen, is read back. Different
numbers are therefore written differently.

In base ten the digits are told by their characters (`IsDecimal`) and their number is added up
from the front (`number`), so that it can be said without the reader what the reader takes:
`read?_ten_eq_some` for digits alone, `unsigned?_eq_some` with a plus sign and a limit. Of the
digits for one number those without a needless zero in front are the ones that are written
(`eq_write_number`).
-/

namespace ShellGateway.Digit

/-- A digit has its value in every base that it belongs to. -/
theorem value?_char {base n : Nat} (hn : n < base) (hb : base ≤ 16) :
    value? base (char n) = some n := by
  have digits : ∀ k : Fin 16, (if '0' ≤ char k ∧ char k ≤ '9' then some ((char k).toNat - 48)
      else if 'a' ≤ char k ∧ char k ≤ 'f' then some ((char k).toNat - 87)
      else if 'A' ≤ char k ∧ char k ≤ 'F' then some ((char k).toNat - 55)
      else none) = some k.val := by
    decide
  unfold value?
  dsimp only
  rw [digits ⟨n, by omega⟩]
  simp [hn]

/-- Reading on after a digit. -/
theorem readFrom?_char {base n d : Nat} (hd : d < base) (hb : base ≤ 16) (rest : List Char) :
    readFrom? base n (char d :: rest) = readFrom? base (n * base + d) rest := by
  rw [readFrom?, value?_char hd hb]

/-- The digits of a number, read in front of others, count for the number. -/
theorem readFrom?_onto {base : Nat} (two : 2 ≤ base) (hb : base ≤ 16) {fuel n : Nat}
    (enough : n < fuel) (acc : List Char) :
    readFrom? base 0 (onto base fuel n acc) = readFrom? base n acc := by
  induction fuel generalizing n acc with
  | zero => omega
  | succ fuel ih =>
    rw [onto]
    by_cases hn : n < base
    · rw [if_pos hn, readFrom?_char hn hb, Nat.zero_mul, Nat.zero_add]
    · have fewer : n / base < n := Nat.div_lt_self (by omega) two
      rw [if_neg hn, ih (by omega), readFrom?_char (Nat.mod_lt n (by omega)) hb,
        Nat.div_add_mod']

theorem onto_ne_nil {base fuel n : Nat} (enough : n < fuel) (acc : List Char) :
    onto base fuel n acc ≠ [] := by
  -- once there are digits, there stay some
  have nonempty : ∀ fuel n acc, acc ≠ [] → onto base fuel n acc ≠ [] := by
    intro fuel
    induction fuel with
    | zero =>
      intro n acc h
      exact h
    | succ fuel ih =>
      intro n acc h
      rw [onto]
      split
      · exact List.cons_ne_nil _ _
      · exact ih _ _ (List.cons_ne_nil _ _)
  cases fuel with
  | zero => omega
  | succ fuel =>
    rw [onto]
    split
    · exact List.cons_ne_nil _ _
    · exact nonempty _ _ _ (List.cons_ne_nil _ _)

/-- **What is written is read back.** -/
theorem read?_write {base : Nat} (two : 2 ≤ base) (hb : base ≤ 16) (n : Nat) :
    read? base (write base n) = some n := by
  have enough : n < n + 1 := Nat.lt_succ_self n
  have read := readFrom?_onto two hb enough []
  have digits : onto base (n + 1) n [] ≠ [] := onto_ne_nil enough []
  unfold write
  cases h : onto base (n + 1) n [] with
  | nil => exact absurd h digits
  | cons c rest =>
    rw [h] at read
    exact read

/-- Different numbers are written differently. -/
theorem decimal_inj {m n : Nat} : decimal m = decimal n ↔ m = n := by
  constructor
  · intro h
    have digits : write 10 m = write 10 n := String.ofList_injective h
    have read := congrArg (read? 10) digits
    rw [read?_write (by decide) (by decide), read?_write (by decide) (by decide)] at read
    exact Option.some.inj read
  · rintro rfl
    rfl

/-- What is read is bounded by the number of digits. -/
theorem readFrom?_lt {base n m : Nat} {s : List Char} (h : readFrom? base n s = some m) :
    m < (n + 1) * base ^ s.length := by
  induction s generalizing n with
  | nil =>
    cases h
    simp
  | cons c rest ih =>
    rw [readFrom?] at h
    cases hv : value? base c with
    | none =>
      rw [hv] at h
      cases h
    | some d =>
      rw [hv] at h
      have small : d < base := by
        unfold value? at hv
        simpa using (Option.filter_eq_some_iff.mp hv).2
      calc m < (n * base + d + 1) * base ^ rest.length := ih h
        _ ≤ (n * base + base) * base ^ rest.length := Nat.mul_le_mul_right _ (by omega)
        _ = (n + 1) * base ^ (c :: rest).length := by
          rw [← Nat.succ_mul, List.length_cons, Nat.pow_succ', Nat.mul_assoc]

theorem read?_lt {base m : Nat} {s : List Char} (h : read? base s = some m) :
    m < base ^ s.length := by
  cases s with
  | nil => cases h
  | cons c rest => simpa using readFrom?_lt (n := 0) h

/-! ## Runs of digits -/

/-- What is read consists of digits. -/
theorem isSome_of_readFrom? {base n m : Nat} {s : List Char} (h : readFrom? base n s = some m) :
    ∀ c ∈ s, (value? base c).isSome = true := by
  induction s generalizing n with
  | nil => exact nofun
  | cons c rest ih =>
    rw [readFrom?] at h
    cases hv : value? base c with
    | none =>
      rw [hv] at h
      cases h
    | some d =>
      rw [hv] at h
      intro x hx
      rcases List.mem_cons.mp hx with rfl | later
      · rw [hv]
        rfl
      · exact ih h x later

theorem isSome_of_mem_write {base n : Nat} (two : 2 ≤ base) (hb : base ≤ 16) :
    ∀ c ∈ write base n, (value? base c).isSome = true := by
  have read := readFrom?_onto two hb (Nat.lt_succ_self n) []
  exact isSome_of_readFrom? (m := n) (read.trans rfl)

/-- Digits are split off up to what is no digit. -/
theorem span_append {base : Nat} {s rest : List Char}
    (digits : ∀ c ∈ s, (value? base c).isSome = true)
    (stop : ∀ c ∈ rest.head?, value? base c = none) : span base (s ++ rest) = (s, rest) := by
  rw [span, List.span_eq_takeWhile_dropWhile, List.takeWhile_append_of_pos digits,
    List.dropWhile_append_of_pos digits]
  cases rest with
  | nil => simp
  | cons c rest => simp [stop c rfl]

/-- What is split off are digits, and nothing is lost. -/
theorem span_spec (base : Nat) (s : List Char) :
    (∀ c ∈ (span base s).1, (value? base c).isSome = true) ∧
      (span base s).1 ++ (span base s).2 = s := by
  rw [span, List.span_eq_takeWhile_dropWhile]
  constructor
  · intro c hc
    exact List.mem_takeWhile_imp (p := fun c => (value? base c).isSome) hc
  · exact List.takeWhile_append_dropWhile

/-! ## Base ten -/

/-- A decimal digit. -/
def IsDecimal (c : Char) : Prop :=
  '0' ≤ c ∧ c ≤ '9'

/-- The number that decimal digits write. -/
def number (digits : List Char) : Nat :=
  digits.foldl (fun n c => n * 10 + (c.toNat - 48)) 0

/-- Digits beyond nine are none in base ten. -/
theorem value?_ten_eq_some {c : Char} {d : Nat} :
    value? 10 c = some d ↔ IsDecimal c ∧ d = c.toNat - 48 := by
  have nine : c ≤ '9' → c.toNat ≤ 57 := fun h => Char.le_def.mp h
  have small : 'a' ≤ c → 97 ≤ c.toNat := fun h => Char.le_def.mp h
  have large : 'A' ≤ c → 65 ≤ c.toNat := fun h => Char.le_def.mp h
  unfold value? IsDecimal
  dsimp only
  rw [Option.filter_eq_some_iff, decide_eq_true_iff]
  by_cases decimal : '0' ≤ c ∧ c ≤ '9'
  · rw [if_pos decimal]
    have := nine decimal.2
    constructor
    · rintro ⟨h, -⟩
      exact ⟨decimal, (Option.some.inj h).symm⟩
    · rintro ⟨-, rfl⟩
      exact ⟨rfl, by omega⟩
  · rw [if_neg decimal]
    constructor
    · rintro ⟨h, below⟩
      split at h
      · rename_i letter
        have := small letter.1
        cases h
        omega
      · split at h
        · rename_i letter
          have := large letter.1
          cases h
          omega
        · cases h
    · rintro ⟨h, -⟩
      exact absurd h decimal

theorem readFrom?_ten_eq_some {n m : Nat} {s : List Char} :
    readFrom? 10 n s = some m ↔
      (∀ c ∈ s, IsDecimal c) ∧ m = s.foldl (fun n c => n * 10 + (c.toNat - 48)) n := by
  induction s generalizing n with
  | nil => simp [readFrom?, eq_comm]
  | cons c rest ih =>
    rw [readFrom?, List.forall_mem_cons, List.foldl_cons]
    cases hv : value? 10 c with
    | some d =>
      obtain ⟨decimal, rfl⟩ := value?_ten_eq_some.mp hv
      show readFrom? 10 (n * 10 + (c.toNat - 48)) rest = some m ↔ _
      rw [ih, and_iff_right decimal]
    | none =>
      constructor
      · intro h
        cases h
      · rintro ⟨⟨decimal, -⟩, -⟩
        rw [value?_ten_eq_some.mpr ⟨decimal, rfl⟩] at hv
        cases hv

/-- What is read as a number in base ten: one or more decimal digits. -/
theorem read?_ten_eq_some {n : Nat} {s : List Char} :
    read? 10 s = some n ↔ s ≠ [] ∧ (∀ c ∈ s, IsDecimal c) ∧ n = number s := by
  cases s with
  | nil => simp [read?]
  | cons c rest =>
    show readFrom? 10 0 (c :: rest) = some n ↔ _
    rw [readFrom?_ten_eq_some, and_iff_right (List.cons_ne_nil c rest)]
    rfl

/-- A number below `limit` in decimal digits, with at most one plus sign in front. -/
def Unsigned (limit : Nat) (s : List Char) (n : Nat) : Prop :=
  ∃ digits, (s = digits ∨ s = '+' :: digits) ∧ digits ≠ [] ∧ (∀ c ∈ digits, IsDecimal c) ∧
    n = number digits ∧ n < limit

/-- **`unsigned?` reads exactly these.** -/
theorem unsigned?_eq_some {limit n : Nat} {s : List Char} :
    unsigned? limit s = some n ↔ Unsigned limit s n := by
  unfold unsigned? Unsigned
  dsimp only
  rw [Option.filter_eq_some_iff, decide_eq_true_iff, read?_ten_eq_some]
  constructor
  · rintro ⟨⟨nonempty, decimal, rfl⟩, below⟩
    refine ⟨_, ?_, nonempty, decimal, rfl, below⟩
    split
    · exact .inr rfl
    · exact .inl rfl
  · rintro ⟨digits, rfl | rfl, nonempty, decimal, rfl, below⟩
    · split
      · -- a plus sign is no digit
        have plus := decimal '+' List.mem_cons_self
        unfold IsDecimal at plus
        exact absurd plus (by decide)
      · exact ⟨⟨nonempty, decimal, rfl⟩, below⟩
    · exact ⟨⟨nonempty, decimal, rfl⟩, below⟩

/-! ## One way to write a number -/

theorem IsDecimal.bounds {c : Char} (h : IsDecimal c) : 48 ≤ c.toNat ∧ c.toNat ≤ 57 :=
  ⟨Char.le_def.mp h.1, Char.le_def.mp h.2⟩

/-- A decimal digit is the digit of its value. -/
theorem IsDecimal.eq_char {c : Char} (h : IsDecimal c) : c = char (c.toNat - 48) := by
  have := h.bounds
  unfold char
  rw [if_pos (by omega), show 48 + (c.toNat - 48) = c.toNat by omega, Char.ofNat_toNat]

theorem onto_append (base fuel n : Nat) (acc : List Char) :
    onto base fuel n acc = onto base fuel n [] ++ acc := by
  induction fuel generalizing n acc with
  | zero => rfl
  | succ fuel ih =>
    rw [onto, onto]
    split
    · rfl
    · rw [ih, ih _ [_], List.append_assoc, List.singleton_append]

/-- More steps than there are digits make no difference. -/
theorem onto_eq_write {base fuel n : Nat} (two : 2 ≤ base) (enough : n < fuel) (acc : List Char) :
    onto base fuel n acc = write base n ++ acc := by
  rw [onto_append]
  suffices h : ∀ fuel' , n < fuel' → onto base fuel n [] = onto base fuel' n [] by
    rw [write, h (n + 1) (Nat.lt_succ_self n)]
  intro fuel' enough'
  induction fuel generalizing n fuel' with
  | zero => omega
  | succ fuel ih =>
    cases fuel' with
    | zero => omega
    | succ fuel' =>
      rw [onto, onto]
      split
      · rfl
      · have fewer : n / base < n := Nat.div_lt_self (by omega) two
        rw [onto_append, ih (by omega) fuel' (by omega), ← onto_append]

theorem write_of_lt {base n : Nat} (h : n < base) : write base n = [char n] := by
  rw [write, onto, if_pos h]

/-- One more digit at the end. -/
theorem write_concat {base n d : Nat} (two : 2 ≤ base) (hn : 0 < n) (hd : d < base) :
    write base (n * base + d) = write base n ++ [char d] := by
  have more : ¬ n * base + d < base := by
    have : 1 * base ≤ n * base := Nat.mul_le_mul_right base hn
    omega
  have front : (n * base + d) / base = n := by
    rw [Nat.mul_comm, Nat.mul_add_div (by omega), Nat.div_eq_of_lt hd, Nat.add_zero]
  have last : (n * base + d) % base = d := by
    rw [Nat.mul_comm, Nat.mul_add_mod, Nat.mod_eq_of_lt hd]
  have fewer : n < n * base + d := by
    have : n * 2 ≤ n * base := Nat.mul_le_mul_left n two
    omega
  rw [write, onto, if_neg more, front, last, onto_eq_write two fewer]

theorem number_concat (s : List Char) (c : Char) :
    number (s ++ [c]) = number s * 10 + (c.toNat - 48) := by
  unfold number
  rw [List.foldl_append]
  rfl

/-- A number is written with zero alone, or with digits that do not begin with zero. -/
def IsPlain (s : List Char) : Prop :=
  s = ['0'] ∨ s ≠ [] ∧ s.head? ≠ some '0'

theorem IsPlain.ne_nil {s : List Char} (h : IsPlain s) : s ≠ [] := by
  obtain rfl | h := h
  · exact List.cons_ne_nil _ _
  · exact h.1

theorem number_pos {s : List Char} (decimal : ∀ c ∈ s, IsDecimal c) (nonempty : s ≠ [])
    (plain : s.head? ≠ some '0') : 0 < number s := by
  induction s using List.reverseRecOn with
  | nil => exact absurd rfl nonempty
  | append_singleton s c ih =>
    rw [number_concat]
    cases s with
    | nil =>
      have := (decimal c (List.mem_append_right _ List.mem_cons_self)).bounds
      have : c.toNat ≠ 48 := by
        intro zero
        refine plain (congrArg some ?_)
        exact Char.ext (UInt32.toNat_inj.mp zero)
      omega
    | cons first s =>
      have := ih (fun c hc => decimal c (List.mem_append_left _ hc)) (List.cons_ne_nil _ _) plain
      omega

/-- **A number is written in one way only.** -/
theorem eq_write_number {s : List Char} (decimal : ∀ c ∈ s, IsDecimal c) (plain : IsPlain s) :
    s = write 10 (number s) := by
  obtain rfl | ⟨nonempty, plain⟩ := plain
  · rfl
  · induction s using List.reverseRecOn with
    | nil => exact absurd rfl nonempty
    | append_singleton s c ih =>
      have digit := decimal c (List.mem_append_right _ List.mem_cons_self)
      have := digit.bounds
      rw [number_concat]
      cases s with
      | nil =>
        show [c] = write 10 (0 * 10 + (c.toNat - 48))
        rw [Nat.zero_mul, Nat.zero_add, write_of_lt (by omega), ← digit.eq_char]
      | cons first s =>
        have earlier := fun d hd => decimal d (List.mem_append_left [c] hd)
        have positive := number_pos earlier (List.cons_ne_nil _ _) plain
        rw [write_concat (by omega) positive (by omega), ← digit.eq_char,
          ← ih earlier (List.cons_ne_nil _ _) plain]

/-! ## What is written -/

theorem isDecimal_of_mem_write {n : Nat} {c : Char} (hc : c ∈ write 10 n) : IsDecimal c :=
  (read?_ten_eq_some.mp (read?_write (by decide) (by decide) n)).2.1 c hc

theorem write_ne_nil (n : Nat) : write 10 n ≠ [] :=
  (read?_ten_eq_some.mp (read?_write (by decide) (by decide) n)).1

theorem head?_write {base n : Nat} (two : 2 ≤ base) (hb : base ≤ 16) (hn : 0 < n) :
    (write base n).head? ≠ some '0' := by
  induction n using Nat.strongRecOn with
  | ind n ih =>
    by_cases small : n < base
    · have digits : ∀ k : Fin 16, 0 < k.val → char k ≠ '0' := by decide
      rw [write_of_lt small]
      exact fun h => digits ⟨n, by omega⟩ hn (Option.some.inj h)
    · have positive : 0 < n / base := Nat.div_pos (by omega) (by omega)
      rw [← Nat.div_add_mod' n base, write_concat two positive (Nat.mod_lt n (by omega))]
      have front := ih (n / base) (Nat.div_lt_self hn two) positive
      have some : write base (n / base) ≠ [] := onto_ne_nil (Nat.lt_succ_self _) []
      cases h : write base (n / base) with
      | nil => exact absurd h some
      | cons c rest =>
        rw [h] at front
        exact front

theorem isPlain_write (n : Nat) : IsPlain (write 10 n) := by
  cases n with
  | zero => exact .inl rfl
  | succ n => exact .inr ⟨write_ne_nil _, head?_write (by decide) (by decide) n.succ_pos⟩

theorem number_write (n : Nat) : number (write 10 n) = n :=
  (read?_ten_eq_some.mp (read?_write (by decide) (by decide) n)).2.2.symm

/-- A number below a power of the base has as many digits at most. -/
theorem length_write_le {base n k : Nat} (two : 2 ≤ base) (hn : n < Nat.pow base k) (hk : 0 < k) :
    (write base n).length ≤ k := by
  induction k generalizing n with
  | zero => omega
  | succ k ih =>
    by_cases small : n < base
    · rw [write_of_lt small]
      exact Nat.succ_le_succ (Nat.zero_le k)
    · have fewer : n / base < Nat.pow base k := by
        rw [Nat.div_lt_iff_lt_mul (by omega)]
        exact hn
      have positive : 0 < k := by
        rcases Nat.eq_zero_or_pos k with rfl | positive
        · have : Nat.pow base 0 = 1 := rfl
          have := Nat.div_pos (Nat.le_of_not_lt small) (by omega)
          omega
        · exact positive
      have concat := write_concat two (Nat.div_pos (Nat.le_of_not_lt small) (by omega))
        (Nat.mod_lt n (by omega : 0 < base))
      rw [Nat.div_add_mod'] at concat
      rw [concat, List.length_append, List.length_singleton]
      exact Nat.succ_le_succ (ih fewer positive)

theorem number_append (s s' : List Char) :
    number (s ++ s') = s'.foldl (fun n c => n * 10 + (c.toNat - 48)) (number s) := by
  unfold number
  rw [List.foldl_append]

/-- Zeros in front do not count. -/
theorem number_zeros_append (k : Nat) (s : List Char) :
    number (List.replicate k '0' ++ s) = number s := by
  have zeros : number (List.replicate k '0') = 0 := by
    induction k with
    | zero => rfl
    | succ k ih => rw [List.replicate_succ', number_concat, ih]; rfl
  rw [number_append, zeros]
  rfl

/-- A zero at the end makes ten times as much. -/
theorem number_append_zeros (s : List Char) (k : Nat) :
    number (s ++ List.replicate k '0') = number s * Nat.pow 10 k := by
  induction k with
  | zero => simp
  | succ k ih =>
    rw [List.replicate_succ', ← List.append_assoc, number_concat, ih, Nat.mul_assoc]
    rfl

end ShellGateway.Digit
