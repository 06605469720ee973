import Mathlib.Data.Bool.Basic
import Mathlib.Data.List.Basic
import ShellGateway.Auth.Record

/-!
# Comparing secrets

Secrets of one length are compared position by position to the end, whatever is found on the way.
What is collected are the bits in which bytes differ (`differences`). A position only ever adds to
them (`testBit_collect`), so a bit is set in the end if it differs anywhere (`testBit_differences`),
and none is set if no position has different bytes (`differences_eq_zero_iff`). As other secrets are
never the same, this makes the comparison equality (`sameBytes_iff`).

How long a comparison takes is not said here.
-/

namespace ShellGateway.Auth

/-- Adds the bits in which the bytes of one position differ. -/
def collect (found : UInt8) (pair : UInt8 × UInt8) : UInt8 :=
  found ||| (pair.1 ^^^ pair.2)

/-- The bits in which byte strings differ at some position that both have. -/
def differences (a b : Bytes) : UInt8 :=
  (a.zip b).foldl collect 0

theorem sameBytes_eq (a b : Bytes) :
    sameBytes a b = (a.length == b.length && differences a b == 0) :=
  rfl

/-! ## Bits -/

/-- A bit that is set stays set, and one that differs is set. -/
theorem testBit_collect (found : UInt8) (pair : UInt8 × UInt8) (k : Nat) :
    (collect found pair).toNat.testBit k = true ↔
      found.toNat.testBit k = true ∨ pair.1.toNat.testBit k ≠ pair.2.toNat.testBit k := by
  unfold collect
  rw [UInt8.toNat_or, Nat.testBit_or, UInt8.toNat_xor, Nat.testBit_xor, Bool.or_eq_true,
    Bool.xor_iff_ne]

theorem testBit_foldl_collect (pairs : List (UInt8 × UInt8)) (found : UInt8) (k : Nat) :
    (pairs.foldl collect found).toNat.testBit k = true ↔ found.toNat.testBit k = true ∨
      ∃ pair ∈ pairs, pair.1.toNat.testBit k ≠ pair.2.toNat.testBit k := by
  induction pairs generalizing found with
  | nil => simp
  | cons pair rest ih =>
    rw [List.foldl_cons, ih, testBit_collect, List.exists_mem_cons_iff, or_assoc]

/-- **A bit is collected if it differs at some position.** -/
theorem testBit_differences (a b : Bytes) (k : Nat) :
    (differences a b).toNat.testBit k = true ↔ ∃ i, ∃ (ha : i < a.length) (hb : i < b.length),
      a[i].toNat.testBit k ≠ b[i].toNat.testBit k := by
  have none : (0 : UInt8).toNat.testBit k ≠ true := by simp
  unfold differences
  rw [testBit_foldl_collect, or_iff_right none]
  constructor
  · rintro ⟨pair, hpair, h⟩
    obtain ⟨i, hi, rfl⟩ := List.getElem_of_mem hpair
    rw [List.length_zip, Nat.lt_min] at hi
    rw [List.getElem_zip] at h
    exact ⟨i, hi.1, hi.2, h⟩
  · rintro ⟨i, ha, hb, h⟩
    have hi : i < (a.zip b).length := by
      rw [List.length_zip]
      exact Nat.lt_min.mpr ⟨ha, hb⟩
    refine ⟨(a.zip b)[i], List.getElem_mem hi, ?_⟩
    rw [List.getElem_zip]
    exact h

/-- Bytes are equal if their bits are. -/
theorem byte_ext {x y : UInt8} (h : ∀ k, x.toNat.testBit k = y.toNat.testBit k) : x = y :=
  UInt8.toNat_inj.mp (Nat.eq_of_testBit_eq h)

/-! ## Bytes -/

/-- **Nothing is collected if all positions agree.** -/
theorem differences_eq_zero_iff (a b : Bytes) : differences a b = 0 ↔
    ∀ i (ha : i < a.length) (hb : i < b.length), a[i] = b[i] := by
  constructor
  · intro h i ha hb
    refine byte_ext fun k => Decidable.byContradiction fun hk => ?_
    have set := (testBit_differences a b k).mpr ⟨i, ha, hb, hk⟩
    rw [h] at set
    simp at set
  · intro h
    refine byte_ext fun k => ?_
    have unset : (differences a b).toNat.testBit k ≠ true := by
      rw [Ne, testBit_differences]
      rintro ⟨i, ha, hb, hk⟩
      exact hk (by rw [h i ha hb])
    rw [eq_false_of_ne_true unset]
    simp

/-- **Byte strings compare as the same if they are equal.** -/
theorem sameBytes_iff (a b : Bytes) : sameBytes a b = true ↔ a = b := by
  rw [sameBytes_eq, Bool.and_eq_true, beq_iff_eq, beq_iff_eq, differences_eq_zero_iff]
  constructor
  · rintro ⟨hlen, h⟩
    exact List.ext_getElem hlen h
  · rintro rfl
    exact ⟨rfl, fun _ _ _ => rfl⟩

/-- **Comparing to the end decides equality.** What is collected are the bits that differ at some
position, and nothing if all positions agree; byte strings of different lengths are never the
same. -/
theorem comparison_is_equality (a b : Bytes) :
    (sameBytes a b = true ↔ a = b) ∧
      (sameBytes a b = true ↔ a.length = b.length ∧ differences a b = 0) ∧
      (differences a b = 0 ↔
        ∀ i (ha : i < a.length) (hb : i < b.length), a[i] = b[i]) ∧
      (∀ k, (differences a b).toNat.testBit k = true ↔
        ∃ i, ∃ (ha : i < a.length) (hb : i < b.length),
          a[i].toNat.testBit k ≠ b[i].toNat.testBit k) ∧
      (a.length ≠ b.length → sameBytes a b = false) := by
  refine ⟨sameBytes_iff a b, ?_, differences_eq_zero_iff a b, testBit_differences a b, ?_⟩
  · rw [sameBytes_eq, Bool.and_eq_true, beq_iff_eq, beq_iff_eq]
  · intro hlen
    rw [← Bool.not_eq_true, sameBytes_iff]
    exact fun h => hlen (congrArg List.length h)

example : differences [97, 98, 99] [97, 98, 100, 101] = 7 ∧
    sameBytes [97, 98, 99] [97, 98, 99, 100] = false := by decide

end ShellGateway.Auth
