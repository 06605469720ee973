import Mathlib.Data.List.Basic
import ShellGateway.Text.Base64
import ShellGateway.Text.Blank

/-!
# Base 64 is canonical

Every byte string has exactly one text, and reading accepts that text and no
other (`decode?_eq_some_iff`). So the data word of a key determines the key's
bytes and is determined by them, whatever reads it later.

Letters and values below 64 correspond (`value?_letter`, `letter_of_value?`). The
rest follows the quadruples of a text: two values pack into one byte, three into
two, four into three, and the bits that are left over have to be zero.
-/

namespace ShellGateway.Base64

/-! ## Letters -/

/-- Every value below 64 has a letter that stands for it. -/
theorem value?_letter : ∀ n < 64, value? (letter n) = some n := by
  decide

/-- The padding mark stands for no value. -/
theorem value?_padding : value? '=' = none := by
  decide

/-- A character that stands for a value is the letter of that value. -/
theorem letter_of_value? {c : Char} {n : Nat} (h : value? c = some n) : n < 64 ∧ letter n = c := by
  have back : Char.ofNat c.toNat = c := Char.ofNat_toNat c
  unfold value? at h
  split at h
  · rename_i hc
    have lo : 65 ≤ c.toNat := hc.1
    have hi : c.toNat ≤ 90 := hc.2
    obtain rfl := Option.some.inj h
    refine ⟨by omega, ?_⟩
    rw [letter, if_pos (by omega), Nat.add_sub_cancel' lo, back]
  split at h
  · rename_i hc
    have lo : 97 ≤ c.toNat := hc.1
    have hi : c.toNat ≤ 122 := hc.2
    obtain rfl := Option.some.inj h
    refine ⟨by omega, ?_⟩
    rw [letter, if_neg (by omega), if_pos (by omega), Nat.add_sub_cancel' (by omega), back]
  split at h
  · rename_i hc
    have lo : 48 ≤ c.toNat := hc.1
    have hi : c.toNat ≤ 57 := hc.2
    obtain rfl := Option.some.inj h
    refine ⟨by omega, ?_⟩
    rw [letter, if_neg (by omega), if_neg (by omega), if_pos (by omega), Nat.add_sub_cancel, back]
  split at h
  · rename_i hc
    obtain rfl := Option.some.inj h
    exact ⟨by decide, hc.symm⟩
  split at h
  · rename_i hc
    obtain rfl := Option.some.inj h
    exact ⟨by decide, hc.symm⟩
  · cases h

/-- No letter is the padding mark. -/
theorem letter_ne_padding {n : Nat} (hn : n < 64) : letter n ≠ '=' := by
  intro h
  have := value?_letter n hn
  rw [h, value?_padding] at this
  cases this

/-- No letter is white space. -/
theorem isBlank_letter : ∀ n < 64, Text.isBlank (letter n) = false := by
  decide

/-! ## Texts -/

/-- A byte that is put together again. -/
theorem ofNat_of_eq_toNat {a : UInt8} {n : Nat} (h : n = a.toNat) : UInt8.ofNat n = a := by
  rw [h]
  exact UInt8.ofNat_toNat

/-- The bits of a byte that was put together are the bits that went in. -/
theorem toNat_ofNat {n : Nat} (hn : n < 256) : (UInt8.ofNat n).toNat = n :=
  UInt8.toNat_ofNat_of_lt' hn

/-- The text of a byte string is read as that byte string. -/
theorem decode?_encode (bytes : Bytes) : decode? (encode bytes) = some bytes := by
  fun_induction encode bytes with
  | case1 => rfl
  | case2 a =>
    have ha : a.toNat < 256 := a.toNat_lt
    have packed : a.toNat / 4 * 4 + a.toNat % 4 * 16 / 16 = a.toNat := by omega
    rw [decode?, value?_letter _ (by omega), value?_letter _ (by omega)]
    simp only [Option.bind_eq_bind, Option.bind_some]
    rw [if_pos (by omega), ofNat_of_eq_toNat packed]
  | case3 a b =>
    have ha : a.toNat < 256 := a.toNat_lt
    have hb : b.toNat < 256 := b.toNat_lt
    have first : a.toNat / 4 * 4 + (a.toNat % 4 * 16 + b.toNat / 16) / 16 = a.toNat := by omega
    have second : (a.toNat % 4 * 16 + b.toNat / 16) % 16 * 16 + b.toNat % 16 * 4 / 4 = b.toNat := by
      omega
    rw [decode?.eq_3 _ _ _ (letter_ne_padding (by omega)), value?_letter _ (by omega),
      value?_letter _ (by omega), value?_letter _ (by omega)]
    simp only [Option.bind_eq_bind, Option.bind_some]
    rw [if_pos (by omega), ofNat_of_eq_toNat first, ofNat_of_eq_toNat second]
  | case4 a b c rest ih =>
    have ha : a.toNat < 256 := a.toNat_lt
    have hb : b.toNat < 256 := b.toNat_lt
    have hc : c.toNat < 256 := c.toNat_lt
    have first : a.toNat / 4 * 4 + (a.toNat % 4 * 16 + b.toNat / 16) / 16 = a.toNat := by omega
    have second : (a.toNat % 4 * 16 + b.toNat / 16) % 16 * 16
        + (b.toNat % 16 * 4 + c.toNat / 64) / 4 = b.toNat := by omega
    have third : (b.toNat % 16 * 4 + c.toNat / 64) % 4 * 64 + c.toNat % 64 = c.toNat := by omega
    have unpadded : letter (c.toNat % 64) ≠ '=' := letter_ne_padding (by omega)
    rw [decode?.eq_4 _ _ _ _ _ (fun _ h _ => unpadded h) (fun h _ => unpadded h),
      value?_letter _ (by omega), value?_letter _ (by omega), value?_letter _ (by omega),
      value?_letter _ (by omega), ih]
    simp only [Option.bind_eq_bind, Option.bind_some, Option.pure_def]
    rw [ofNat_of_eq_toNat first, ofNat_of_eq_toNat second, ofNat_of_eq_toNat third]

/-- What is read as a byte string is the text of that byte string. -/
theorem eq_encode_of_decode? {s : List Char} {bytes : Bytes} (h : decode? s = some bytes) :
    s = encode bytes := by
  fun_induction decode? s generalizing bytes with
  | case1 =>
    obtain rfl := Option.some.inj h
    rfl
  | case2 a b =>
    simp only [Option.bind_eq_bind, Option.bind_eq_some_iff, Option.ite_none_right_eq_some,
      Option.some.injEq] at h
    obtain ⟨x, hx, y, hy, unused, rfl⟩ := h
    obtain ⟨hx, rfl⟩ := letter_of_value? hx
    obtain ⟨hy, rfl⟩ := letter_of_value? hy
    have byte : (UInt8.ofNat (x * 4 + y / 16)).toNat = x * 4 + y / 16 := toNat_ofNat (by omega)
    have first : (x * 4 + y / 16) / 4 = x := by omega
    have second : (x * 4 + y / 16) % 4 * 16 = y := by omega
    rw [encode, byte, first, second]
  | case3 a b c hc =>
    simp only [Option.bind_eq_bind, Option.bind_eq_some_iff, Option.ite_none_right_eq_some,
      Option.some.injEq] at h
    obtain ⟨x, hx, y, hy, z, hz, unused, rfl⟩ := h
    obtain ⟨hx, rfl⟩ := letter_of_value? hx
    obtain ⟨hy, rfl⟩ := letter_of_value? hy
    obtain ⟨hz, rfl⟩ := letter_of_value? hz
    have byte : (UInt8.ofNat (x * 4 + y / 16)).toNat = x * 4 + y / 16 := toNat_ofNat (by omega)
    have byte' : (UInt8.ofNat (y % 16 * 16 + z / 4)).toNat = y % 16 * 16 + z / 4 :=
      toNat_ofNat (by omega)
    have first : (x * 4 + y / 16) / 4 = x := by omega
    have second : (x * 4 + y / 16) % 4 * 16 + (y % 16 * 16 + z / 4) / 16 = y := by omega
    have third : (y % 16 * 16 + z / 4) % 16 * 4 = z := by omega
    rw [encode, byte, byte', first, second, third]
  | case4 a b c d rest hc hd ih =>
    simp only [Option.bind_eq_bind, Option.bind_eq_some_iff, Option.pure_def,
      Option.some.injEq] at h
    obtain ⟨x, hx, y, hy, z, hz, w, hw, tail, htail, rfl⟩ := h
    obtain ⟨hx, rfl⟩ := letter_of_value? hx
    obtain ⟨hy, rfl⟩ := letter_of_value? hy
    obtain ⟨hz, rfl⟩ := letter_of_value? hz
    obtain ⟨hw, rfl⟩ := letter_of_value? hw
    have byte : (UInt8.ofNat (x * 4 + y / 16)).toNat = x * 4 + y / 16 := toNat_ofNat (by omega)
    have byte' : (UInt8.ofNat (y % 16 * 16 + z / 4)).toNat = y % 16 * 16 + z / 4 :=
      toNat_ofNat (by omega)
    have byte'' : (UInt8.ofNat (z % 4 * 64 + w)).toNat = z % 4 * 64 + w := toNat_ofNat (by omega)
    have first : (x * 4 + y / 16) / 4 = x := by omega
    have second : (x * 4 + y / 16) % 4 * 16 + (y % 16 * 16 + z / 4) / 16 = y := by omega
    have third : (y % 16 * 16 + z / 4) % 16 * 4 + (z % 4 * 64 + w) / 64 = z := by omega
    have fourth : (z % 4 * 64 + w) % 64 = w := by omega
    rw [encode, byte, byte', byte'', first, second, third, fourth, ← ih htail]
  | case5 => cases h

/-- **Reading accepts exactly the text of each byte string.** -/
theorem decode?_eq_some_iff {s : List Char} {bytes : Bytes} :
    decode? s = some bytes ↔ s = encode bytes := by
  constructor
  · exact eq_encode_of_decode?
  · rintro rfl
    exact decode?_encode bytes

/-- Only the empty byte string has an empty text. -/
theorem encode_eq_nil_iff {bytes : Bytes} : encode bytes = [] ↔ bytes = [] := by
  constructor
  · intro h
    have read := decode?_encode bytes
    rw [h] at read
    exact (Option.some.inj read).symm
  · rintro rfl
    rfl

/-- There is no white space in the text of a byte string. -/
theorem isBlank_of_mem_encode {bytes : Bytes} {c : Char} (hc : c ∈ encode bytes) :
    Text.isBlank c = false := by
  have padding : Text.isBlank '=' = false := by decide
  fun_induction encode bytes with
  | case1 => cases hc
  | case2 a =>
    have ha : a.toNat < 256 := a.toNat_lt
    simp only [List.mem_cons, List.not_mem_nil, or_false] at hc
    rcases hc with rfl | rfl | rfl | rfl
    · exact isBlank_letter _ (by omega)
    · exact isBlank_letter _ (by omega)
    · exact padding
    · exact padding
  | case3 a b =>
    have ha : a.toNat < 256 := a.toNat_lt
    have hb : b.toNat < 256 := b.toNat_lt
    simp only [List.mem_cons, List.not_mem_nil, or_false] at hc
    rcases hc with rfl | rfl | rfl | rfl
    · exact isBlank_letter _ (by omega)
    · exact isBlank_letter _ (by omega)
    · exact isBlank_letter _ (by omega)
    · exact padding
  | case4 a b c rest ih =>
    have ha : a.toNat < 256 := a.toNat_lt
    have hb : b.toNat < 256 := b.toNat_lt
    have hc' : c.toNat < 256 := c.toNat_lt
    simp only [List.mem_cons] at hc
    rcases hc with rfl | rfl | rfl | rfl | hc
    · exact isBlank_letter _ (by omega)
    · exact isBlank_letter _ (by omega)
    · exact isBlank_letter _ (by omega)
    · exact isBlank_letter _ (by omega)
    · exact ih hc

end ShellGateway.Base64
