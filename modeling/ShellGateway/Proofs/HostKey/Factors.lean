import Mathlib.Data.Int.ModEq
import Mathlib.Data.Nat.Prime.Basic
import Mathlib.Data.Nat.Size
import ShellGateway.HostKey.Rsa

/-!
# Keys made from primes

A key that is made from two primes has all that is said of it (`Rsa.IsProper`): its exponents are
inverse to each other modulo (p−1)(q−1), since the extended Euclid that finds the private one keeps
each remainder congruent to its coefficient times the number to be inverted (`euclid_modEq`). So
a reader that looks whether the parts of a key belong together finds that they do
(`Rsa.IsMade.isSound`).

Nothing is known of the test for primes but that it accepts nothing else.
-/

namespace ShellGateway.HostKey

namespace Rsa

/-! ## Inverses -/

/-- **Each remainder is its coefficient times the number to be inverted.** -/
theorem euclid_modEq {a m : Int} {r₀ r₁ : Nat} {c₀ c₁ : Int} (h₀ : (r₀ : Int) ≡ c₀ * a [ZMOD m])
    (h₁ : (r₁ : Int) ≡ c₁ * a [ZMOD m]) :
    ((euclid r₀ r₁ c₀ c₁).1 : Int) ≡ (euclid r₀ r₁ c₀ c₁).2 * a [ZMOD m] := by
  fun_induction euclid r₀ r₁ c₀ c₁ with
  | case1 r₀ c₀ c₁ => exact h₀
  | case2 r₀ r₁ c₀ c₁ nonzero ih =>
    refine ih h₁ ?_
    have divided : ((r₀ % r₁ : Nat) : Int) = r₀ - (r₀ / r₁ : Nat) * r₁ := by
      rw [Int.natCast_mod, Int.emod_def, Int.natCast_div, mul_comm]
    rw [divided, sub_mul, mul_assoc]
    exact h₀.sub (h₁.mul_left _)

/-- **What is found is an inverse.** -/
theorem inverse?_eq_some {a m c : Nat} (found : inverse? a m = some c) (hm : 1 < m) :
    c < m ∧ a * c % m = 1 := by
  have zero : (m : Int) ≡ 0 * a [ZMOD m] := by
    rw [zero_mul]
    exact Int.modEq_zero_iff_dvd.mpr (dvd_refl _)
  have one : ((a % m : Nat) : Int) ≡ 1 * a [ZMOD m] := by
    rw [one_mul, Int.natCast_mod]
    exact Int.mod_modEq _ _
  have kept := euclid_modEq zero one
  unfold inverse? at found
  generalize euclid m (a % m) 0 1 = result at found kept
  obtain ⟨gcd, x⟩ := result
  dsimp only at found kept
  split at found
  · rename_i coprime
    have value : (((x % m).toNat : Nat) : Int) = x % m :=
      Int.toNat_of_nonneg (Int.emod_nonneg _ (by omega))
    have below : x % (m : Int) < m := Int.emod_lt_of_pos _ (by omega)
    obtain rfl := Option.some.inj found
    refine ⟨by omega, ?_⟩
    have inverse : ((a * (x % m).toNat : Nat) : Int) ≡ ((1 : Nat) : Int) [ZMOD m] := by
      rw [Nat.cast_mul, value, Nat.cast_one]
      calc (a : Int) * (x % m)
          ≡ a * x [ZMOD m] := (Int.mod_modEq _ _).mul_left _
        _ = x * a := mul_comm _ _
        _ ≡ gcd [ZMOD m] := kept.symm
        _ = 1 := by rw [coprime, Nat.cast_one]
    have same : a * (x % m).toNat % m = 1 % m := Int.natCast_modEq_iff.mp inverse
    rw [same, Nat.mod_eq_of_lt hm]
  · cases found

/-! ## Keys -/

/-- All that is said of a key that is made from two primes. -/
structure IsProper (k : Rsa) : Prop where
  exponent : k.publicExponent = 65537
  product : k.modulus = k.p * k.q
  /-- The modulus has exactly this many bits. -/
  size : k.modulus.size = 2048
  distinct : k.p ≠ k.q
  inverse : k.publicExponent * k.privateExponent % ((k.p - 1) * (k.q - 1)) = 1
  dp_eq : k.dp = k.privateExponent % (k.p - 1)
  dq_eq : k.dq = k.privateExponent % (k.q - 1)
  qInverse_eq : k.q * k.qInverse % k.p = 1

/-- A key whose numbers are in their ranges, too. -/
structure IsMade (k : Rsa) : Prop extends k.IsProper where
  two_lt_p : 2 < k.p
  two_lt_q : 2 < k.q
  privateExponent_lt : k.privateExponent < (k.p - 1) * (k.q - 1)
  qInverse_lt : k.qInverse < k.p

variable {p q : Nat} {k : Rsa}

/-- A factor of a long product is more than two if the other is much shorter. -/
theorem two_lt_of_product {a b : Nat} (product : Nat.pow 2 b ≤ p * q) (other : p < Nat.pow 2 a)
    (short : a + 1 ≤ b) : 2 < q := by
  refine Nat.lt_of_not_le fun small => ?_
  have less : p * q < Nat.pow 2 b :=
    calc p * q ≤ p * 2 := Nat.mul_le_mul_left p small
      _ < Nat.pow 2 a * 2 := Nat.mul_lt_mul_of_pos_right other Nat.zero_lt_two
      _ = 2 ^ (a + 1) := (pow_succ 2 a).symm
      _ ≤ 2 ^ b := Nat.pow_le_pow_right Nat.zero_lt_two short
  exact absurd product (Nat.not_le.mpr less)

theorem size_eq {a b n : Nat} (large : Nat.pow 2 a ≤ n) (small : n < Nat.pow 2 b)
    (next : b = a + 1) : n.size = b := by
  have at_least : a < n.size := Nat.lt_size.mpr large
  have at_most : n.size ≤ b := Nat.size_le.mpr small
  omega

theorem lt_of_size {b n : Nat} (small : n.size ≤ b) : n < Nat.pow 2 b :=
  Nat.size_le.mp small

/-- **Two numbers of half the size make a key, or none.** -/
theorem ofPrimes?_eq_some (p_lt : p < Nat.pow 2 (bits / 2)) (q_lt : q < Nat.pow 2 (bits / 2))
    (made : ofPrimes? p q = some k) : k.IsMade ∧ k.p = p ∧ k.q = q := by
  unfold ofPrimes? at made
  split at made
  · cases made
  · rename_i fits
    obtain ⟨d, inverse, made⟩ := Option.bind_eq_some_iff.mp made
    obtain ⟨qInverse, inverse', made⟩ := Option.bind_eq_some_iff.mp made
    cases made
    obtain ⟨distinct, fits⟩ := not_or.mp fits
    obtain ⟨large, small⟩ := not_or.mp fits
    have large : Nat.pow 2 (bits - 1) ≤ p * q := Nat.le_of_not_lt large
    have two_lt_q : 2 < q := two_lt_of_product large p_lt (by decide)
    have two_lt_p : 2 < p := by
      rw [mul_comm] at large
      exact two_lt_of_product large q_lt (by decide)
    have totient : 1 < (p - 1) * (q - 1) :=
      Nat.one_lt_mul_iff.mpr ⟨by omega, by omega, .inl (by omega)⟩
    obtain ⟨d_lt, d_inverse⟩ := inverse?_eq_some inverse totient
    obtain ⟨qInverse_lt, qInverse_eq⟩ := inverse?_eq_some inverse' (by omega)
    have size : (p * q).size = bits := size_eq large (Nat.lt_of_not_le small) rfl
    refine ⟨⟨?_, two_lt_p, two_lt_q, d_lt, qInverse_lt⟩, rfl, rfl⟩
    exact ⟨rfl, rfl, size, distinct, d_inverse, rfl, rfl, qInverse_eq⟩

/-! ## What a reader looks for -/

/-- **The parts of a key that is made from two odd numbers belong together.** -/
theorem IsMade.isSound (made : k.IsMade) (p_odd : k.p % 2 = 1) (q_odd : k.q % 2 = 1) :
    k.IsSound := by
  have two_lt_p := made.two_lt_p
  have two_lt_q := made.two_lt_q
  have p_ne : 1 < k.p - 1 := by omega
  have q_ne : 1 < k.q - 1 := by omega
  have large : 2 ^ 17 ≤ k.modulus := Nat.lt_size.mp (by rw [made.size]; decide)
  constructor
  case modulus_lt => exact lt_of_size (made.size.trans_le (by decide))
  case modulus_odd => rw [made.product, Nat.mul_mod, p_odd, q_odd]
  case one_lt_exponent | exponent_le =>
    rw [made.exponent]
    decide
  case exponent_odd => rw [made.exponent]
  case exponent_lt =>
    rw [made.exponent]
    omega
  case one_lt_p | one_lt_q => omega
  case product => exact made.product.symm
  case inverse_p =>
    rw [← Nat.mod_mul_right_mod _ (k.p - 1) (k.q - 1), made.inverse, Nat.mod_eq_of_lt p_ne]
  case inverse_q =>
    rw [← Nat.mod_mul_left_mod _ (k.p - 1) (k.q - 1), made.inverse, Nat.mod_eq_of_lt q_ne]
  case dp_eq => exact made.dp_eq
  case dq_eq => exact made.dq_eq
  case qInverse_lt => exact made.qInverse_lt
  case qInverse_eq => exact made.qInverse_eq

/-- The numbers of a key are no more than its modulus. -/
theorem IsMade.le_modulus (made : k.IsMade) : ∀ n ∈ [k.modulus, k.publicExponent,
    k.privateExponent, k.p, k.q, k.dp, k.dq, k.qInverse], n ≤ k.modulus := by
  have two_lt_p := made.two_lt_p
  have two_lt_q := made.two_lt_q
  have large : 2 ^ 17 ≤ k.modulus := Nat.lt_size.mp (by rw [made.size]; decide)
  have p_le : k.p ≤ k.modulus := by
    rw [made.product]
    exact Nat.le_mul_of_pos_right _ (by omega)
  have q_le : k.q ≤ k.modulus := by
    rw [made.product]
    exact Nat.le_mul_of_pos_left _ (by omega)
  have totient_le : (k.p - 1) * (k.q - 1) ≤ k.modulus := by
    rw [made.product]
    exact Nat.mul_le_mul (Nat.sub_le _ _) (Nat.sub_le _ _)
  have d_lt := made.privateExponent_lt
  have dp_le : k.dp ≤ k.privateExponent := made.dp_eq.trans_le (Nat.mod_le _ _)
  have dq_le : k.dq ≤ k.privateExponent := made.dq_eq.trans_le (Nat.mod_le _ _)
  have qInverse_lt := made.qInverse_lt
  have exponent := made.exponent
  simp only [List.forall_mem_cons]
  refine ⟨Nat.le_refl _, ?_, ?_, p_le, q_le, ?_, ?_, ?_, nofun⟩ <;> omega

end Rsa

/-! ## Searching -/

/-- A prime that is found passes the test, and is not too long. -/
theorem Prime.find?_eq_some {isPrime : Nat → Bool} {bits tries p : Nat} {s s' : Keystream}
    (found : find? isPrime bits tries s = some (p, s')) : isPrime p = true ∧ p < Nat.pow 2 bits := by
  induction tries generalizing s with
  | zero =>
    rw [find?] at found
    cases found
  | succ tries ih =>
    rw [find?] at found
    dsimp only at found
    split at found
    · rename_i passes
      cases found
      obtain ⟨short, prime⟩ := Bool.and_eq_true_iff.mp passes
      exact ⟨prime, of_decide_eq_true short⟩
    · exact ih found

namespace Rsa

variable {k : Rsa} {isPrime : Nat → Bool}

/-- A key that was drawn is made from two numbers that pass the test. -/
theorem draw?_eq_some {rounds : Nat} {s : Keystream} (drawn : draw? isPrime rounds s = some k) :
    k.IsMade ∧ isPrime k.p = true ∧ isPrime k.q = true := by
  induction rounds generalizing s with
  | zero => cases drawn
  | succ rounds ih =>
    rw [draw?] at drawn
    obtain ⟨⟨p, s₁⟩, first, drawn⟩ := Option.bind_eq_some_iff.mp drawn
    obtain ⟨⟨q, s₂⟩, second, drawn⟩ := Option.bind_eq_some_iff.mp drawn
    obtain ⟨p_prime, p_lt⟩ := Prime.find?_eq_some first
    obtain ⟨q_prime, q_lt⟩ := Prime.find?_eq_some second
    dsimp only at drawn
    split at drawn
    · rename_i key makes
      cases drawn
      obtain ⟨made, rfl, rfl⟩ := ofPrimes?_eq_some p_lt q_lt makes
      exact ⟨made, p_prime, q_prime⟩
    · exact ih drawn

/-- **If the test accepts nothing but primes, a key that was drawn is sound.** -/
theorem isSound_of_draw? {rounds : Nat} {s : Keystream} (sound : ∀ n, isPrime n = true → n.Prime)
    (drawn : draw? isPrime rounds s = some k) :
    k.IsMade ∧ k.p.Prime ∧ k.q.Prime ∧ k.IsSound := by
  obtain ⟨made, p_prime, q_prime⟩ := draw?_eq_some drawn
  have p_prime := sound _ p_prime
  have q_prime := sound _ q_prime
  have p_odd := p_prime.eq_two_or_odd.resolve_left (Nat.ne_of_gt made.two_lt_p)
  have q_odd := q_prime.eq_two_or_odd.resolve_left (Nat.ne_of_gt made.two_lt_q)
  exact ⟨made, p_prime, q_prime, made.isSound p_odd q_odd⟩

/-- So it is refused by nobody who looks it through. -/
theorem ofSeed?_eq_draw? (sound : ∀ n, isPrime n = true → n.Prime) (seed : Bytes) :
    ofSeed? isPrime seed = draw? isPrime 1000 (.ofSeed seed) := by
  show draw? isPrime 1000 (.ofSeed seed) >>= sound? = _
  cases drawn : draw? isPrime 1000 (.ofSeed seed) with
  | none => rfl
  | some k =>
    obtain ⟨-, -, -, belongs⟩ := isSound_of_draw? sound drawn
    have kept : k.sound? = some k := if_pos belongs
    rw [Option.bind_eq_bind, Option.bind_some, kept]

end Rsa

end ShellGateway.HostKey
