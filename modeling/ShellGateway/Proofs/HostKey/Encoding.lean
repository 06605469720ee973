import Mathlib.Algebra.Order.BigOperators.Group.List
import Mathlib.Tactic.Ring
import ShellGateway.HostKey.Source
import ShellGateway.Proofs.Text.Base64

/-!
# What is written of a key is read back

A key's parts are written as numbers, the numbers as items with a tag and a length, and the items
in a row as one item again. Reading takes them off from the front: each reader takes exactly what
its writer has written and leaves what follows (`takeLength?_lengthBytes`, `takeItem?_item`,
`takeInteger?_integer`). A length has no more than 127 bytes, which bounds what can be written;
keys are far from it.

The bytes of a number have a sign, so a number whose first bit is set gets a zero byte in front.
There are no other zero bytes in front (`signed_minimal`), and no reader takes anything but what
its writer would have written (`toRsa?_eq_some`).
-/

namespace ShellGateway.HostKey

/-! ## Numbers and their bytes -/

namespace Keystream

theorem bigEndian_append (a b : Bytes) :
    bigEndian (a ++ b) = bigEndian a * 256 ^ b.length + bigEndian b := by
  have from' : ∀ (b : Bytes) (n : Nat),
      b.foldl (fun n x => n * 256 + x.toNat) n = n * 256 ^ b.length + bigEndian b := by
    intro b
    induction b with
    | nil => simp [bigEndian]
    | cons x rest ih =>
      intro n
      simp only [bigEndian, List.foldl_cons, List.length_cons]
      rw [ih, ih (0 * 256 + x.toNat)]
      ring
  unfold bigEndian
  rw [List.foldl_append, from']
  rfl

theorem bigEndian_cons (b : UInt8) (rest : Bytes) :
    bigEndian (b :: rest) = b.toNat * 256 ^ rest.length + bigEndian rest := by
  have whole := bigEndian_append [b] rest
  simpa [bigEndian] using whole

@[simp]
theorem bigEndian_singleton (b : UInt8) : bigEndian [b] = b.toNat := by
  simp [bigEndian]

theorem bigEndian_lt (bytes : Bytes) : bigEndian bytes < 256 ^ bytes.length := by
  induction bytes with
  | nil => simp [bigEndian]
  | cons b rest ih =>
    have small : b.toNat + 1 ≤ 256 := b.toNat_lt
    rw [bigEndian_cons, List.length_cons]
    calc b.toNat * 256 ^ rest.length + bigEndian rest
        < b.toNat * 256 ^ rest.length + 256 ^ rest.length := Nat.add_lt_add_left ih _
      _ = (b.toNat + 1) * 256 ^ rest.length := (Nat.succ_mul _ _).symm
      _ ≤ 256 * 256 ^ rest.length := Nat.mul_le_mul_right _ small
      _ = 256 ^ (rest.length + 1) := (pow_succ' _ _).symm

end Keystream

namespace Der

open Keystream (bigEndian bigEndian_append bigEndian_cons bigEndian_lt bigEndian_singleton)

theorem magnitudeOnto_eq (fuel n : Nat) (acc : Bytes) :
    magnitudeOnto fuel n acc = magnitudeOnto fuel n [] ++ acc := by
  induction fuel generalizing n acc with
  | zero => rfl
  | succ fuel ih =>
    unfold magnitudeOnto
    split
    · rfl
    · rw [ih, ih _ [UInt8.ofNat (n % 256)], List.append_assoc]
      rfl

theorem magnitudeOnto_succ {n : Nat} (fuel : Nat) (hn : n ≠ 0) :
    magnitudeOnto (fuel + 1) n [] =
      magnitudeOnto fuel (n / 256) [] ++ [UInt8.ofNat (n % 256)] := by
  rw [magnitudeOnto, if_neg hn, magnitudeOnto_eq]

theorem bigEndian_magnitudeOnto {fuel n : Nat} (enough : n < 256 ^ fuel) :
    bigEndian (magnitudeOnto fuel n []) = n := by
  induction fuel generalizing n with
  | zero =>
    rw [pow_zero, Nat.lt_one_iff] at enough
    rw [enough]
    rfl
  | succ fuel ih =>
    by_cases hn : n = 0
    · rw [hn]
      rfl
    · have rest : n / 256 < 256 ^ fuel := by
        rw [pow_succ] at enough
        exact Nat.div_lt_of_lt_mul (by omega)
      have last : (UInt8.ofNat (n % 256)).toNat = n % 256 :=
        Base64.toNat_ofNat (Nat.mod_lt n (by decide))
      rw [magnitudeOnto_succ fuel hn, bigEndian_append, ih rest, bigEndian_singleton, last,
        List.length_singleton, pow_one]
      omega

/-- The first byte of a number is not zero. -/
theorem first_magnitudeOnto {fuel n : Nat} (enough : n < 256 ^ fuel) {b : UInt8} {rest : Bytes}
    (bytes : magnitudeOnto fuel n [] = b :: rest) : b ≠ 0 := by
  induction fuel generalizing n b rest with
  | zero => cases bytes
  | succ fuel ih =>
    by_cases hn : n = 0
    · rw [hn] at bytes
      cases bytes
    · have fewer : n / 256 < 256 ^ fuel := by
        rw [pow_succ] at enough
        exact Nat.div_lt_of_lt_mul (by omega)
      rw [magnitudeOnto_succ fuel hn] at bytes
      cases front : magnitudeOnto fuel (n / 256) [] with
      | cons c rest' =>
        rw [front] at bytes
        cases bytes
        exact ih fewer front
      | nil =>
        have small : n / 256 = 0 := by
          rw [← bigEndian_magnitudeOnto fewer, front]
          rfl
        rw [front] at bytes
        cases bytes
        intro zero
        have value := congrArg UInt8.toNat zero
        rw [Base64.toNat_ofNat (Nat.mod_lt n (by decide))] at value
        have : n % 256 = 0 := value
        omega

theorem length_magnitudeOnto {fuel n k : Nat} (small : n < 256 ^ k) :
    (magnitudeOnto fuel n []).length ≤ k := by
  induction fuel generalizing n k with
  | zero => exact Nat.zero_le k
  | succ fuel ih =>
    by_cases hn : n = 0
    · rw [hn]
      exact Nat.zero_le k
    · cases k with
      | zero => omega
      | succ k =>
        have fewer : n / 256 < 256 ^ k := by
          rw [pow_succ] at small
          exact Nat.div_lt_of_lt_mul (by omega)
        rw [magnitudeOnto_succ fuel hn, List.length_append, List.length_singleton]
        exact Nat.succ_le_succ (ih fewer)

theorem enough_magnitude (n : Nat) : n < 256 ^ (n.log2 + 1) :=
  calc n < 2 ^ (n.log2 + 1) := Nat.lt_log2_self
    _ ≤ 256 ^ (n.log2 + 1) := Nat.pow_le_pow_left (by decide) _

theorem pow_bytes (k : Nat) : Nat.pow 2 (8 * k) = 256 ^ k :=
  pow_mul 2 8 k

/-- **The bytes of a number write it.** -/
@[simp]
theorem bigEndian_magnitude (n : Nat) : bigEndian (magnitude n) = n :=
  bigEndian_magnitudeOnto (enough_magnitude n)

theorem length_magnitude {n k : Nat} (small : n < 256 ^ k) : (magnitude n).length ≤ k :=
  length_magnitudeOnto small

theorem first_magnitude {n : Nat} {b : UInt8} {rest : Bytes} (bytes : magnitude n = b :: rest) :
    b ≠ 0 :=
  first_magnitudeOnto (enough_magnitude n) bytes

/-- Bytes that are as short as their sign allows: the first bit is not set, and a zero byte stands
in front only if it would be otherwise. -/
def IsMinimal : Bytes → Prop
  | [] => False
  | [b] => b < 0x80
  | b :: c :: _ => b < 0x80 ∧ (b = 0 → 0x80 ≤ c)

/-- **A number is written as shortly as its sign allows.** -/
theorem signed_minimal (n : Nat) : IsMinimal (signed n) := by
  unfold signed
  split
  · show (0 : UInt8) < 0x80
    decide
  · rename_i b rest bytes
    split
    · rename_i positive
      cases rest with
      | nil => exact positive
      | cons c rest => exact ⟨positive, fun zero => absurd zero (first_magnitude bytes)⟩
    · rename_i negative
      exact ⟨by decide, fun _ => UInt8.not_lt.mp negative⟩

@[simp]
theorem bigEndian_signed (n : Nat) : bigEndian (signed n) = n := by
  have value := bigEndian_magnitude n
  unfold signed
  split
  · rename_i none
    rw [none] at value
    exact value
  · rename_i bytes
    rw [bytes] at value
    split
    · exact value
    · rw [bigEndian_cons]
      simpa using value

theorem length_signed {n k : Nat} (small : n < 256 ^ k) : (signed n).length ≤ k + 1 := by
  have length := length_magnitude small
  unfold signed
  split
  · simp
  · rename_i bytes
    rw [bytes] at length
    split
    · exact Nat.le_succ_of_le length
    · exact Nat.succ_le_succ length

/-! ## Items -/

/-- The length of what can be written in an item is less than this. -/
def lengthLimit : Nat := 256 ^ 127

/-- A length is read back. -/
theorem takeLength?_lengthBytes {n : Nat} (small : n < lengthLimit) (rest : Bytes) :
    takeLength? (lengthBytes n ++ rest) = some (n, rest) := by
  by_cases short : n < 128
  · have value : (UInt8.ofNat n).toNat = n := Base64.toNat_ofNat (by omega)
    have below : UInt8.ofNat n < 0x80 := by
      rw [UInt8.lt_iff_toNat_lt, value]
      exact short
    rw [lengthBytes, if_pos short]
    show (if UInt8.ofNat n < 0x80 then some ((UInt8.ofNat n).toNat, rest) else _) = _
    rw [if_pos below, value]
  · have fits : (magnitude n).length ≤ 127 := length_magnitude small
    have value : (UInt8.ofNat (128 + (magnitude n).length)).toNat = 128 + (magnitude n).length :=
      Base64.toNat_ofNat (by omega)
    have above : ¬ UInt8.ofNat (128 + (magnitude n).length) < 0x80 := by
      rw [UInt8.lt_iff_toNat_lt, value]
      exact Nat.not_lt.mpr (Nat.le_add_right _ _)
    have count : (UInt8.ofNat (128 + (magnitude n).length)).toNat - 128 = (magnitude n).length := by
      omega
    have written : lengthBytes n = UInt8.ofNat (128 + (magnitude n).length) :: magnitude n :=
      if_neg short
    rw [written, List.cons_append, takeLength?, if_neg above]
    dsimp only
    rw [count, List.take_left, List.drop_left, bigEndian_magnitude, if_pos ⟨rfl, written⟩]

/-- **An item is read back.** -/
theorem takeItem?_item (tag : UInt8) {contents : Bytes} (short : contents.length < lengthLimit)
    (rest : Bytes) : takeItem? tag (item tag contents ++ rest) = some (contents, rest) := by
  have length := takeLength?_lengthBytes short (contents ++ rest)
  rw [item, List.cons_append, List.cons_append, List.append_assoc]
  simp only [takeItem?, if_true, length, Option.bind_eq_bind, Option.bind_some, List.take_left,
    List.drop_left]

/-- Nothing else is read as a length. -/
theorem takeLength?_eq_some {n : Nat} {bytes rest : Bytes}
    (taken : takeLength? bytes = some (n, rest)) : bytes = lengthBytes n ++ rest := by
  cases bytes with
  | nil => cases taken
  | cons b tail =>
    rw [takeLength?] at taken
    split at taken
    · rename_i below
      have below : b.toNat < 128 := UInt8.lt_iff_toNat_lt.mp below
      obtain ⟨rfl, rfl⟩ := Prod.mk.inj (Option.some.inj taken)
      rw [lengthBytes, if_pos below, UInt8.ofNat_toNat]
      rfl
    · dsimp only at taken
      split at taken
      · rename_i strict
        obtain ⟨rfl, rfl⟩ := Prod.mk.inj (Option.some.inj taken)
        rw [strict.2, List.cons_append, List.take_append_drop]
      · cases taken

/-- Nothing else is read as an item. -/
theorem takeItem?_eq_some {tag : UInt8} {bytes contents rest : Bytes}
    (taken : takeItem? tag bytes = some (contents, rest)) : bytes = item tag contents ++ rest := by
  cases bytes with
  | nil => cases taken
  | cons b tail =>
    rw [takeItem?] at taken
    split at taken
    · rename_i same
      obtain ⟨⟨n, after⟩, length, taken⟩ := Option.bind_eq_some_iff.mp taken
      dsimp only at taken
      split at taken
      · rename_i full
        obtain ⟨rfl, rfl⟩ := Prod.mk.inj (Option.some.inj taken)
        rw [takeLength?_eq_some length, same, item, full, List.cons_append, List.cons_append,
          List.append_assoc, List.take_append_drop]
      · cases taken
    · cases taken

/-- The bytes of a number fit into an item. -/
def Writable (n : Nat) : Prop :=
  (signed n).length < lengthLimit

/-- **A number is read back**, from an item that is as short as can be. -/
theorem takeInteger?_integer {n : Nat} (writable : Writable n) (rest : Bytes) :
    takeInteger? (integer n ++ rest) = some (n, rest) := by
  rw [integer, takeInteger?, takeItem?_item integerTag writable, Option.bind_eq_bind,
    Option.bind_some]
  dsimp only
  rw [bigEndian_signed, if_pos rfl]

/-- **Nothing else is read as a number.** -/
theorem takeInteger?_eq_some {n : Nat} {bytes rest : Bytes}
    (taken : takeInteger? bytes = some (n, rest)) : bytes = integer n ++ rest := by
  obtain ⟨⟨contents, after⟩, whole, taken⟩ := Option.bind_eq_some_iff.mp taken
  dsimp only at taken
  split at taken
  · rename_i short
    obtain ⟨rfl, rfl⟩ := Prod.mk.inj (Option.some.inj taken)
    rw [takeItem?_eq_some whole, integer, ← short]
  · cases taken

/-- Numbers in a row are read back. -/
theorem takeIntegers?_flatMap {ns : List Nat} (writable : ∀ n ∈ ns, Writable n) (rest : Bytes) :
    takeIntegers? ns.length (ns.flatMap integer ++ rest) = some (ns, rest) := by
  induction ns with
  | nil => rfl
  | cons n ns ih =>
    obtain ⟨first, others⟩ := List.forall_mem_cons.mp writable
    rw [List.flatMap_cons, List.length_cons, List.append_assoc, takeIntegers?,
      takeInteger?_integer first, Option.bind_eq_bind, Option.bind_some]
    dsimp only
    rw [ih others]
    rfl

/-- Nothing else is read as numbers in a row. -/
theorem takeIntegers?_eq_some {count : Nat} {ns : List Nat} {bytes rest : Bytes}
    (taken : takeIntegers? count bytes = some (ns, rest)) : bytes = ns.flatMap integer ++ rest := by
  induction count generalizing ns bytes with
  | zero =>
    cases taken
    rfl
  | succ count ih =>
    obtain ⟨⟨n, after⟩, first, taken⟩ := Option.bind_eq_some_iff.mp taken
    obtain ⟨⟨others, after'⟩, later, taken⟩ := Option.bind_eq_some_iff.mp taken
    cases taken
    rw [takeInteger?_eq_some first, ih later, List.flatMap_cons, List.append_assoc]

/-- Bytes are numbers in a row, each as short as its sign allows. -/
def IsRow (ns : List Nat) (bytes : Bytes) : Prop :=
  ∃ contents : List Bytes, bytes = contents.flatMap (item integerTag) ∧
    contents.map bigEndian = ns ∧ ∀ c ∈ contents, IsMinimal c

/-- Numbers are written as such a row. -/
theorem isRow_flatMap (ns : List Nat) : IsRow ns (ns.flatMap integer) := by
  refine ⟨ns.map signed, ?_, ?_, ?_⟩
  · rw [List.flatMap_map]
    rfl
  · have undone : bigEndian ∘ signed = id := funext bigEndian_signed
    rw [List.map_map, undone, List.map_id]
  · intro c hc
    obtain ⟨n, -, rfl⟩ := List.mem_map.mp hc
    exact signed_minimal n

end Der

/-! ## Keys -/

namespace Rsa

/-- The numbers that are written of a key. -/
def numbers (k : Rsa) : List Nat :=
  [Der.version, k.modulus, k.publicExponent, k.privateExponent, k.p, k.q, k.dp, k.dq, k.qInverse]

/-- The numbers of a key have at most as many bytes as this. -/
def widest : Nat := 256

/-- The numbers of a key are as small as those of any key in use. -/
def IsBounded (k : Rsa) : Prop :=
  ∀ n ∈ k.numbers, n < 256 ^ widest

end Rsa

namespace Der

variable {k : Rsa}

theorem length_lengthBytes {n : Nat} (small : n < 256 ^ 3) : (lengthBytes n).length ≤ 4 := by
  unfold lengthBytes
  split
  · exact Nat.le_add_left 1 3
  · exact Nat.succ_le_succ (length_magnitude small)

theorem length_integer {n : Nat} (small : n < 256 ^ Rsa.widest) : (integer n).length ≤ 262 := by
  have contents : (signed n).length ≤ 257 := length_signed small
  have length := length_lengthBytes (n := (signed n).length) (by omega)
  rw [integer, item, List.length_append, List.length_cons]
  omega

theorem length_numbers (bounded : k.IsBounded) :
    (k.numbers.flatMap integer).length ≤ 9 * 262 := by
  have each : ∀ l ∈ k.numbers.map fun n => (integer n).length, l ≤ 262 := by
    intro l hl
    obtain ⟨n, hn, rfl⟩ := List.mem_map.mp hl
    exact length_integer (bounded n hn)
  have total := List.sum_le_card_nsmul _ _ each
  rw [List.length_map, Nat.nsmul_eq_mul] at total
  rw [List.length_flatMap]
  exact total

theorem length_ofRsa (bounded : k.IsBounded) : (ofRsa k).length ≤ 2363 := by
  have contents := length_numbers bounded
  have length := length_lengthBytes (n := (k.numbers.flatMap integer).length) (by omega)
  show (item sequenceTag (k.numbers.flatMap integer)).length ≤ 2363
  rw [item, List.length_append, List.length_cons]
  omega

/-- What is much shorter than the limit can be written. -/
theorem lt_lengthLimit {n : Nat} (small : n < 65536) : n < lengthLimit :=
  small.trans (by decide)

/-- **A private key is read back**: its nine numbers, each as short as can be, and nothing
else. -/
theorem takeIntegers?_ofRsa (bounded : k.IsBounded) :
    takeItem? sequenceTag (ofRsa k) = some (k.numbers.flatMap integer, []) ∧
      takeIntegers? 9 (k.numbers.flatMap integer) = some (k.numbers, []) := by
  constructor
  · have short : (k.numbers.flatMap integer).length < lengthLimit :=
      lt_lengthLimit ((length_numbers bounded).trans_lt (by decide))
    have taken := takeItem?_item sequenceTag short []
    rw [List.append_nil] at taken
    exact taken
  · have writable : ∀ n ∈ k.numbers, Writable n := fun n hn =>
      lt_lengthLimit ((length_signed (bounded n hn)).trans_lt (by decide))
    have taken := takeIntegers?_flatMap writable []
    rw [List.append_nil] at taken
    exact taken

theorem toRsa?_ofRsa (bounded : k.IsBounded) : toRsa? (ofRsa k) = some k := by
  obtain ⟨whole, numbers⟩ := takeIntegers?_ofRsa bounded
  rw [toRsa?, whole, Option.bind_eq_bind, Option.bind_some]
  dsimp only
  rw [numbers]
  rfl

/-- **Nothing else is read as a private key**: a key has one binary form. -/
theorem toRsa?_eq_some {bytes : Bytes} (read : toRsa? bytes = some k) : bytes = ofRsa k := by
  obtain ⟨⟨contents, after⟩, whole, read⟩ := Option.bind_eq_some_iff.mp read
  obtain ⟨⟨ns, rest⟩, numbers, read⟩ := Option.bind_eq_some_iff.mp read
  dsimp only at read
  split at read
  · split at read
    · rename_i versioned
      cases read
      rw [takeItem?_eq_some whole, takeIntegers?_eq_some numbers, List.append_nil, List.append_nil,
        versioned]
      rfl
    · cases read
  · cases read

/-- **The record of a key gives it back.** -/
theorem takeNamed?_named {key : Bytes} (short : key.length < 60000) :
    takeNamed? (named key) = some key := by
  have algorithm : rsaAlgorithm.length = 15 := rfl
  have versioned : (integer version).length = 3 := rfl
  have length := length_lengthBytes (n := key.length) (by omega)
  have fits : key.length < lengthLimit := lt_lengthLimit (by omega)
  have contents : (integer version ++ (rsaAlgorithm ++ item bytesTag key)).length < lengthLimit := by
    refine lt_lengthLimit ?_
    simp only [List.length_append, item, List.length_cons]
    omega
  have held := takeItem?_item bytesTag fits []
  have whole := takeItem?_item sequenceTag contents []
  have number : takeInteger? (integer version ++ (rsaAlgorithm ++ item bytesTag key)) =
      some (version, rsaAlgorithm ++ item bytesTag key) :=
    takeInteger?_integer (lt_lengthLimit (by decide)) _
  rw [List.append_nil] at held whole
  simp only [takeNamed?, named, List.append_assoc, whole, number, held, Option.bind_eq_bind,
    Option.bind_some, List.take_left, List.drop_left, and_self, if_true]

end Der
end ShellGateway.HostKey
