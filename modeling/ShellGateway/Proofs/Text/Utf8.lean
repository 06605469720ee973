import Mathlib.Data.List.Induction
import ShellGateway.Text.Bytes

/-!
# Text and its bytes

Two facts about UTF-8 that the daemon relies on. Texts are in the order of their bytes
(`Bytes.ofText_lt_iff`), since of two characters the smaller one is encoded by bytes that come
first, whatever follows them (`encode_append_lt`). And a command is never refused for its
encoding: `Bytes.lossyText` keeps all characters and reads each ill-formed piece, the longest
that a character could begin with, as one replacement (`Utf8.Reads`).

`Utf8.Awaits` lists the beginnings of characters along with what the decoder has kept of them.
In each, the next byte is within the bounds just if the character can go on with it.
-/

namespace ShellGateway

namespace Utf8

/-- The bytes of a character. -/
abbrev encode (c : Char) : Bytes :=
  String.utf8EncodeChar c

/-- Characters have scalar values. -/
theorem scalar (c : Char) :
    c.val.toNat < 0xD800 ∨ 0xDFFF < c.val.toNat ∧ c.val.toNat < 0x110000 :=
  c.valid

section

variable {m n : Nat}

theorem ofNat_lt_ofNat (hm : m < 256) (hn : n < 256) :
    UInt8.ofNat m < UInt8.ofNat n ↔ m < n := by
  rw [UInt8.lt_iff_toNat_lt, UInt8.toNat_ofNat_of_lt' hm, UInt8.toNat_ofNat_of_lt' hn]

theorem ofNat_inj (hm : m < 256) (hn : n < 256) : UInt8.ofNat m = UInt8.ofNat n ↔ m = n := by
  rw [← UInt8.toNat_inj, UInt8.toNat_ofNat_of_lt' hm, UInt8.toNat_ofNat_of_lt' hn]

end

/-! ## The order of texts -/

/-- **Of two characters, the smaller one has the smaller bytes**, whatever follows them. -/
theorem encode_append_lt {c d : Char} (h : c < d) (u v : Bytes) :
    encode c ++ u < encode d ++ v := by
  have lt : c.val.toNat < d.val.toNat := UInt32.lt_iff_toNat_lt.mp h
  have hd := scalar d
  unfold encode String.utf8EncodeChar
  generalize c.val.toNat = m at *
  generalize d.val.toNat = n at *
  -- the first byte in which two characters of four bytes differ decides
  have first : m / 262144 % 8 < n / 262144 % 8 ∨
      m / 262144 % 8 = n / 262144 % 8 ∧ m % 262144 < n % 262144 := by
    have : m / 262144 % 8 = m / 262144 := Nat.mod_eq_of_lt (by omega)
    have : n / 262144 % 8 = n / 262144 := Nat.mod_eq_of_lt (by omega)
    omega
  have second : m % 262144 < n % 262144 → m / 4096 % 64 < n / 4096 % 64 ∨
      m / 4096 % 64 = n / 4096 % 64 ∧ m % 4096 < n % 4096 := by omega
  have third : m % 4096 < n % 4096 → m / 64 % 64 < n / 64 % 64 ∨
      m / 64 % 64 = n / 64 % 64 ∧ m % 64 < n % 64 := by omega
  dsimp only
  split_ifs <;>
    simp (disch := omega) only [List.cons_append, List.nil_append, List.cons_lt_cons_iff,
      ofNat_lt_ofNat, ofNat_inj] <;>
    omega

theorem toList_loop (bytes : ByteArray) (i : Nat) (before : Bytes) :
    ByteArray.toList.loop bytes i before = before.reverse ++ bytes.data.toList.drop i := by
  fun_induction ByteArray.toList.loop bytes i before with
  | case1 i before more ih =>
    have here : i < bytes.data.toList.length := by simpa using more
    rw [ih, List.drop_eq_getElem_cons here]
    simp [ByteArray.get!, more]
  | case2 i before passed =>
    rw [List.drop_eq_nil_of_le (by simpa using Nat.le_of_not_lt passed), List.append_nil]

end Utf8

open Utf8

/-- A text is its characters, one after the other. -/
theorem Bytes.ofText_eq (s : String) : Bytes.ofText s = s.toList.flatMap encode := by
  have array : Bytes.ofText s = s.toList.utf8Encode.data.toList := by
    rw [String.utf8Encode_toList, ← String.toUTF8_eq_toByteArray]
    exact toList_loop _ 0 []
  rw [array]
  exact List.toList_data_toByteArray

/-- Texts of characters are in the order of their bytes. -/
theorem Utf8.flatMap_encode_lt {cs ds : List Char} (h : cs < ds) :
    cs.flatMap encode < ds.flatMap encode := by
  induction h with
  | nil =>
    rename_i d ds
    rw [List.flatMap_nil, List.flatMap_cons]
    cases hd : encode d with
    | nil =>
      have size := congrArg List.length hd
      rw [String.length_utf8EncodeChar] at size
      exact absurd size (Nat.ne_of_gt d.utf8Size_pos)
    | cons b rest => exact .nil
  | rel first => exact encode_append_lt first _ _
  | cons _ ih => exact List.append_left_lt ih

/-- **Texts are in the order of their bytes.** -/
theorem Bytes.ofText_lt_iff (a b : String) : Bytes.ofText a < Bytes.ofText b ↔ a < b := by
  rw [ofText_eq, ofText_eq]
  constructor
  · intro before
    by_contra other
    rcases List.le_iff_lt_or_eq.mp (List.not_lt.mp other) with greater | same
    · exact List.lt_asymm before (flatMap_encode_lt greater)
    · rw [same] at before
      exact List.lt_irrefl _ before
  · exact fun less => flatMap_encode_lt less

/-- Texts with the same bytes are the same. -/
theorem Bytes.ofText_injective : Function.Injective ofText := by
  intro a b same
  have irrefl : ¬ ofText b < ofText b := List.lt_irrefl _
  have below : ¬ a < b := by rwa [← ofText_lt_iff, same]
  have above : ¬ b < a := by rwa [← ofText_lt_iff, same]
  exact String.toList_injective (List.le_antisymm (List.not_lt.mp above) (List.not_lt.mp below))

/-! ## Reading any bytes -/

namespace Utf8

/-- A character can begin like this. -/
def Begins (piece : Bytes) : Prop :=
  ∃ c : Char, piece <+: encode c

/-- Bytes read as text. Characters are read as they are; where none is, the longest piece that
one could begin with is read as one replacement, and so is a byte that none begins with. -/
inductive Reads : Bytes → List Char → Prop where
  | nil : Reads [] []
  | char (c : Char) {rest : Bytes} {text : List Char} (tail : Reads rest text) :
      Reads (encode c ++ rest) (c :: text)
  | stray {b : UInt8} {rest : Bytes} {text : List Char} (none : ¬ Begins [b])
      (tail : Reads rest text) : Reads (b :: rest) (replacement :: text)
  | cut {piece rest : Bytes} {text : List Char} (some : piece ≠ []) (begins : Begins piece)
      (unfinished : ∀ c, piece ≠ encode c)
      (stops : ∀ b, rest.head? = Option.some b → ¬ Begins (piece ++ [b])) (tail : Reads rest text) :
      Reads (piece ++ rest) (replacement :: text)

/-- What the decoder knows of a character that has begun. -/
inductive Awaits : Pending → Bytes → Prop where
  | lastOfTwo (n : Nat) (range : 2 ≤ n ∧ n < 0x20) :
      Awaits ⟨0, 0x80, 0xBF, n⟩ [UInt8.ofNat (n + 0xC0)]
  | twoOfThree (n : Nat) {low high : UInt8} (range : n < 0x10)
      (lower : n = 0 ∧ low.toNat = 0xA0 ∨ n ≠ 0 ∧ low.toNat = 0x80)
      (upper : n = 0xD ∧ high.toNat = 0x9F ∨ n ≠ 0xD ∧ high.toNat = 0xBF) :
      Awaits ⟨1, low, high, n⟩ [UInt8.ofNat (n + 0xE0)]
  | lastOfThree (n : Nat) (range : 0x20 ≤ n ∧ n < 0x400) (scalar : n / 0x20 ≠ 0x1B) :
      Awaits ⟨0, 0x80, 0xBF, n⟩ [UInt8.ofNat (n / 0x40 + 0xE0), UInt8.ofNat (n % 0x40 + 0x80)]
  | threeOfFour (n : Nat) {low high : UInt8} (range : n ≤ 4)
      (lower : n = 0 ∧ low.toNat = 0x90 ∨ n ≠ 0 ∧ low.toNat = 0x80)
      (upper : n = 4 ∧ high.toNat = 0x8F ∨ n ≠ 4 ∧ high.toNat = 0xBF) :
      Awaits ⟨2, low, high, n⟩ [UInt8.ofNat (n + 0xF0)]
  | twoOfFour (n : Nat) (range : 0x10 ≤ n ∧ n < 0x110) :
      Awaits ⟨1, 0x80, 0xBF, n⟩ [UInt8.ofNat (n / 0x40 + 0xF0), UInt8.ofNat (n % 0x40 + 0x80)]
  | lastOfFour (n : Nat) (range : 0x400 ≤ n ∧ n < 0x4400) :
      Awaits ⟨0, 0x80, 0xBF, n⟩ [UInt8.ofNat (n / 0x1000 + 0xF0),
        UInt8.ofNat (n / 0x40 % 0x40 + 0x80), UInt8.ofNat (n % 0x40 + 0x80)]

variable {p : Pending} {piece : Bytes} {b : UInt8}

/-- The next byte is one that the character can go on with. -/
def Pending.Admits (p : Pending) (b : UInt8) : Prop :=
  p.low.toNat ≤ b.toNat ∧ b.toNat ≤ p.high.toNat

/-- What is known after the next byte. -/
def Pending.bitsWith (p : Pending) (b : UInt8) : Nat :=
  p.bits * 0x40 + b.toNat % 0x40

theorem ofNat_eq {n : Nat} (h : n = b.toNat) : UInt8.ofNat n = b := by
  rw [h, UInt8.ofNat_toNat]

theorem ofNat_toNat_add (h : 0x80 ≤ b.toNat ∧ b.toNat < 0xC0) :
    UInt8.ofNat (b.toNat % 0x40 + 0x80) = b := by
  exact ofNat_eq (by omega)

/-- All bytes but the first of a character are from the same range. -/
theorem Awaits.range (awaits : Awaits p piece) (admits : p.Admits b) :
    0x80 ≤ b.toNat ∧ b.toNat < 0xC0 := by
  obtain ⟨above, below⟩ := admits
  cases awaits with
  | lastOfTwo | lastOfThree | twoOfFour | lastOfFour => exact ⟨above, Nat.lt_succ_of_le below⟩
  | twoOfThree n _ lower upper | threeOfFour n _ lower upper =>
    dsimp only at above below
    omega

theorem toNat_val_ofNat {n : Nat} (h : n < 0xD800 ∨ 0xDFFF < n ∧ n < 0x110000) :
    (Char.ofNat n).val.toNat = n := by
  have valid : n.isValidChar := h
  rw [Char.ofNat, dif_pos valid]
  rfl

/-- The last byte makes a character. -/
theorem Awaits.complete (awaits : Awaits p piece) (admits : p.Admits b) (last : p.more = 0) :
    encode (Char.ofNat (p.bitsWith b)) = piece ++ [b] := by
  have next := ofNat_toNat_add (awaits.range admits)
  have small : b.toNat % 0x40 < 0x40 := Nat.mod_lt _ (by decide)
  unfold encode String.utf8EncodeChar Pending.bitsWith
  generalize b.toNat % 0x40 = t at *
  cases awaits with
  | twoOfThree | threeOfFour | twoOfFour => cases last
  | lastOfTwo n range =>
    rw [toNat_val_ofNat (by dsimp only; omega)]
    have first : (n * 0x40 + t) / 64 % 0x20 = n := by omega
    have second : (n * 0x40 + t) % 0x40 = t := by omega
    dsimp only
    rw [if_neg (by omega), if_pos (by omega), first, second, next]
    rfl
  | lastOfThree n range =>
    rw [toNat_val_ofNat (by dsimp only; omega)]
    have first : (n * 0x40 + t) / 4096 % 0x10 = n / 0x40 := by omega
    have second : (n * 0x40 + t) / 64 % 0x40 = n % 0x40 := by omega
    have third : (n * 0x40 + t) % 0x40 = t := by omega
    dsimp only
    rw [if_neg (by omega), if_neg (by omega), if_pos (by omega), first, second, third, next]
    rfl
  | lastOfFour n range =>
    rw [toNat_val_ofNat (by dsimp only; omega)]
    have first : (n * 0x40 + t) / 262144 % 0x08 = n / 0x1000 := by omega
    have second : (n * 0x40 + t) / 4096 % 0x40 = n / 0x40 % 0x40 := by omega
    have third : (n * 0x40 + t) / 64 % 0x40 = n % 0x40 := by omega
    have fourth : (n * 0x40 + t) % 0x40 = t := by omega
    dsimp only
    rw [if_neg (by omega), if_neg (by omega), if_neg (by omega), first, second, third, fourth, next]
    rfl

/-- Until then the character is still to be completed. -/
theorem Awaits.grow (awaits : Awaits p piece) (admits : p.Admits b) {k : Nat}
    (more : p.more = k + 1) : Awaits ⟨k, 0x80, 0xBF, p.bitsWith b⟩ (piece ++ [b]) := by
  have range := awaits.range admits
  have next := ofNat_toNat_add range
  have small : b.toNat % 0x40 < 0x40 := Nat.mod_lt _ (by decide)
  have value : b.toNat = b.toNat % 0x40 + 0x80 := by omega
  obtain ⟨above, below⟩ := admits
  unfold Pending.bitsWith
  generalize b.toNat % 0x40 = t at *
  have front (n : Nat) : (n * 0x40 + t) / 0x40 = n := by omega
  have back (n : Nat) : (n * 0x40 + t) % 0x40 = t := by omega
  cases awaits with
  | lastOfTwo | lastOfThree | lastOfFour => cases more
  | twoOfThree n bound lower upper =>
    cases more
    dsimp only at above below
    have grown := Awaits.lastOfThree (n * 0x40 + t) (by omega) (by omega)
    rw [front, back, next] at grown
    exact grown
  | threeOfFour n bound lower upper =>
    cases more
    dsimp only at above below
    have grown := Awaits.twoOfFour (n * 0x40 + t) (by omega)
    rw [front, back, next] at grown
    exact grown
  | twoOfFour n bound =>
    cases more
    have grown := Awaits.lastOfFour (n * 0x40 + t) (by omega)
    have top : (n * 0x40 + t) / 0x1000 = n / 0x40 := by omega
    rw [front, back, next, top] at grown
    exact grown

/-- No character goes on with a byte out of bounds. -/
theorem Awaits.reject (awaits : Awaits p piece) (out : ¬ p.Admits b) : ¬ Begins (piece ++ [b]) := by
  rintro ⟨c, begun⟩
  have hc := scalar c
  unfold Pending.Admits at out
  unfold encode String.utf8EncodeChar at begun
  generalize c.val.toNat = m at *
  dsimp only at begun
  cases awaits <;> split_ifs at begun <;>
      simp only [List.cons_append, List.nil_append, List.cons_prefix_cons, ← UInt8.toNat_inj,
        UInt8.toNat_ofNat', UInt8.reduceToNat] at begun out <;> omega

theorem Awaits.ne_nil (awaits : Awaits p piece) : piece ≠ [] := by
  cases awaits <;> exact List.cons_ne_nil _ _

/-- Some byte can come next. -/
theorem Awaits.admits_low (awaits : Awaits p piece) : p.Admits p.low := by
  refine ⟨Nat.le_refl _, ?_⟩
  cases awaits with
  | lastOfTwo | lastOfThree | twoOfFour | lastOfFour => exact (by decide : 0x80 ≤ 0xBF)
  | twoOfThree n _ lower upper | threeOfFour n _ lower upper =>
    dsimp only
    omega

/-- What has begun can be completed. -/
theorem Awaits.completes (awaits : Awaits p piece) :
    ∃ c more, more ≠ [] ∧ encode c = piece ++ more := by
  -- complete it with the smallest byte each time
  induction last : p.more generalizing p piece with
  | zero => exact ⟨_, [p.low], List.cons_ne_nil _ _, awaits.complete awaits.admits_low last⟩
  | succ k ih =>
    obtain ⟨c, more, -, whole⟩ := ih (awaits.grow awaits.admits_low last) rfl
    refine ⟨c, p.low :: more, List.cons_ne_nil _ _, whole.trans ?_⟩
    rw [List.append_assoc, List.singleton_append]

/-- No character begins with another. -/
theorem eq_of_encode_append {c d : Char} {u v : Bytes} (h : encode c ++ u = encode d ++ v) :
    c = d := by
  rcases Nat.lt_trichotomy c.val.toNat d.val.toNat with less | same | greater
  · exact absurd (h ▸ encode_append_lt less u v) (List.lt_irrefl _)
  · exact Char.ext (UInt32.toNat_inj.mp same)
  · exact absurd (h ▸ encode_append_lt greater v u) (List.lt_irrefl _)

/-- What a byte is where a character may begin. -/
inductive Leads (b : UInt8) : List Char × Option Pending → Prop where
  | whole {c : Char} (single : encode c = [b]) : Leads b ([c], none)
  | begun {p : Pending} (awaits : Awaits p [b]) : Leads b ([], some p)
  | stray (out : ¬ Begins [b]) : Leads b ([replacement], none)

theorem Awaits.leads {n : Nat} (awaits : Awaits p [UInt8.ofNat n]) (h : n = b.toNat) :
    Leads b ([], some p) := by
  rw [ofNat_eq h] at awaits
  exact .begun awaits

theorem leads (b : UInt8) : Leads b (lead b) := by
  have size : b.toNat < 256 := b.toNat_lt
  unfold lead
  split_ifs with ascii two e0 ed three f0 f4 four <;>
    simp only [Bool.and_eq_true, decide_eq_true_eq, beq_iff_eq, UInt8.le_iff_toNat_le,
      UInt8.lt_iff_toNat_lt, ← UInt8.toNat_inj, UInt8.reduceToNat] at *
  · refine .whole ?_
    unfold encode String.utf8EncodeChar
    rw [toNat_val_ofNat (by omega)]
    dsimp only
    rw [if_pos (by omega), UInt8.ofNat_toNat]
  · exact (Awaits.lastOfTwo (b.toNat % 0x20) (by omega)).leads (by omega)
  · exact (Awaits.twoOfThree 0 (by decide) (by decide) (by decide)).leads (by omega)
  · exact (Awaits.twoOfThree 0xD (by decide) (by decide) (by decide)).leads (by omega)
  · exact (Awaits.twoOfThree (b.toNat % 0x10) (by omega) (.inr ⟨by omega, rfl⟩)
      (.inr ⟨by omega, rfl⟩)).leads (by omega)
  · exact (Awaits.threeOfFour 0 (by decide) (by decide) (by decide)).leads (by omega)
  · exact (Awaits.threeOfFour 4 (by decide) (by decide) (by decide)).leads (by omega)
  · exact (Awaits.threeOfFour (b.toNat % 0x08) (by omega) (.inr ⟨by omega, rfl⟩)
      (.inr ⟨by omega, rfl⟩)).leads (by omega)
  · refine .stray ?_
    rintro ⟨c, begun⟩
    have hc := scalar c
    unfold encode String.utf8EncodeChar at begun
    generalize c.val.toNat = m at *
    dsimp only at begun
    split_ifs at begun <;>
      simp only [List.cons_prefix_cons, ← UInt8.toNat_inj, UInt8.toNat_ofNat'] at begun <;> omega

/-- **The decoder reads all bytes**, whether or not a character has begun before them. -/
theorem decodeFrom_reads (bytes : Bytes) : Reads bytes (decodeFrom none bytes) ∧
    ∀ p piece, Awaits p piece → Reads (piece ++ bytes) (decodeFrom (some p) bytes) := by
  -- a character that has begun and cannot go on
  have cut : ∀ {p piece rest text}, Awaits p piece → Reads rest text →
      (∀ b, rest.head? = some b → ¬ p.Admits b) →
      Reads (piece ++ rest) (replacement :: text) := by
    intro p piece rest text awaits tail out
    obtain ⟨c, more, some, whole⟩ := awaits.completes
    refine .cut awaits.ne_nil ⟨c, more, whole.symm⟩ (fun d same => ?_)
      (fun b hb => awaits.reject (out b hb)) tail
    have other : encode c ++ [] = encode d ++ more := by
      rw [List.append_nil, whole, same]
    obtain rfl := eq_of_encode_append other
    exact some (List.append_cancel_left other).symm
  induction bytes with
  | nil =>
    refine ⟨.nil, fun p piece awaits => ?_⟩
    exact cut awaits .nil nofun
  | cons b rest ih =>
    have fresh : Reads (b :: rest) (decodeFrom none (b :: rest)) := by
      have known := leads b
      show Reads (b :: rest) ((lead b).1 ++ decodeFrom (lead b).2 rest)
      generalize lead b = read at known ⊢
      cases known with
      | whole single =>
        rw [← List.singleton_append, ← single]
        exact .char _ ih.1
      | begun awaits => exact ih.2 _ _ awaits
      | stray out => exact .stray out ih.1
    refine ⟨fresh, fun p piece awaits => ?_⟩
    have split : piece ++ b :: rest = piece ++ [b] ++ rest := by
      rw [List.append_assoc, List.singleton_append]
    by_cases admits : p.Admits b
    · have within : (p.low ≤ b && b ≤ p.high) = true := by
        rw [Bool.and_eq_true, decide_eq_true_eq, decide_eq_true_eq]
        exact admits
      rw [decodeFrom, if_pos within, split]
      dsimp only
      cases last : p.more with
      | zero =>
        rw [← awaits.complete admits last]
        exact .char _ ih.1
      | succ k => exact ih.2 _ _ (awaits.grow admits last)
    · have beyond : ¬ (p.low ≤ b && b ≤ p.high) = true := by
        rw [Bool.and_eq_true, decide_eq_true_eq, decide_eq_true_eq]
        exact admits
      rw [decodeFrom, if_neg beyond]
      refine cut awaits fresh fun b' hb => ?_
      obtain rfl := Option.some.inj hb
      exact admits

/-- Characters are read as they are. -/
theorem reads_encode (text : List Char) : Reads (text.flatMap encode) text := by
  induction text with
  | nil => exact .nil
  | cons c rest ih => exact .char c ih

end Utf8

/-- **Any bytes are read as text**, characters as they are and each ill-formed piece as one
replacement. -/
theorem Bytes.lossyText_reads (bytes : Bytes) : Reads bytes bytes.lossyText.toList := by
  unfold lossyText
  cases h : bytes.text? with
  | none =>
    dsimp only
    rw [String.toList_ofList]
    exact (decodeFrom_reads bytes).1
  | some s =>
    have encoded : bytes = s.toList.flatMap encode := by
      rw [← ofText_eq]
      unfold text? String.fromUTF8? at h
      split_ifs at h
      obtain rfl := Option.some.inj h
      exact (toList_loop ⟨bytes.toArray⟩ 0 []).symm
    dsimp only
    rw [encoded]
    exact reads_encode _

end ShellGateway
