import ShellGateway.HostKey.Prime

/-!
# RSA keys

A key is made from two primes of half its size. The public exponent is fixed;
the private one is its inverse modulo (p−1)(q−1), and the key also carries the
remainders and the inverse that speed up its use. Primes that are equal, whose
product is too short, or whose totient shares a factor with the public exponent
are drawn again.

A key is used only if its parts belong together, wherever it comes from.
-/

namespace ShellGateway.HostKey

/-- A private key. -/
structure Rsa where
  modulus : Nat
  publicExponent : Nat
  privateExponent : Nat
  p : Nat
  q : Nat
  dp : Nat
  dq : Nat
  qInverse : Nat
  deriving DecidableEq, Repr

namespace Rsa

/-- The size of keys, in bits. -/
def bits : Nat := 2048

/-- The public exponent of every key. -/
def exponent : Nat := 65537

/-- Extended Euclid on remainders `r₀`, `r₁` and the coefficients of the
number to be inverted. Answers the last remainder and its coefficient. -/
def euclid (r₀ r₁ : Nat) (c₀ c₁ : Int) : Nat × Int :=
  if r₁ = 0 then (r₀, c₀)
  else euclid r₁ (r₀ % r₁) c₁ (c₀ - (r₀ / r₁ : Nat) * c₁)
termination_by r₁
decreasing_by exact Nat.mod_lt _ (Nat.pos_of_ne_zero (by assumption))

/-- The inverse of `a` modulo `m`, if there is one. -/
def inverse? (a m : Nat) : Option Nat :=
  let (gcd, c) := euclid m (a % m) 0 1
  if gcd = 1 then some (c % (m : Int)).toNat else none

/-- The key of two primes, if they make one of the right size. -/
def ofPrimes? (p q : Nat) : Option Rsa :=
  if p = q ∨ p * q < Nat.pow 2 (bits - 1) ∨ Nat.pow 2 bits ≤ p * q then none
  else do
    let d ← inverse? exponent ((p - 1) * (q - 1))
    let qInverse ← inverse? q p
    return { modulus := p * q, publicExponent := exponent, privateExponent := d, p, q,
             dp := d % (p - 1), dq := d % (q - 1), qInverse }

/-! ## Parts that belong together -/

/-- The largest modulus that a key may have, in bits. -/
def largestBits : Nat := 4096

/-- The largest public exponent that a key may have. -/
def largestExponent : Nat := 8589934591

/-- The parts of a key belong together: the modulus is the product of the
factors, the exponents undo each other for each factor, and the derived numbers
are those that follow from the rest. Modulus and public exponent are odd and
within their bounds. -/
structure IsSound (k : Rsa) : Prop where
  modulus_lt : k.modulus < Nat.pow 2 largestBits
  modulus_odd : k.modulus % 2 = 1
  one_lt_exponent : 1 < k.publicExponent
  exponent_le : k.publicExponent ≤ largestExponent
  exponent_odd : k.publicExponent % 2 = 1
  exponent_lt : k.publicExponent < k.modulus
  one_lt_p : 1 < k.p
  one_lt_q : 1 < k.q
  product : k.p * k.q = k.modulus
  inverse_p : k.publicExponent * k.privateExponent % (k.p - 1) = 1
  inverse_q : k.publicExponent * k.privateExponent % (k.q - 1) = 1
  dp_eq : k.dp = k.privateExponent % (k.p - 1)
  dq_eq : k.dq = k.privateExponent % (k.q - 1)
  qInverse_lt : k.qInverse < k.p
  qInverse_eq : k.q * k.qInverse % k.p = 1

instance (k : Rsa) : Decidable k.IsSound :=
  decidable_of_iff
    (k.modulus < Nat.pow 2 largestBits ∧ k.modulus % 2 = 1 ∧ 1 < k.publicExponent
      ∧ k.publicExponent ≤ largestExponent ∧ k.publicExponent % 2 = 1
      ∧ k.publicExponent < k.modulus ∧ 1 < k.p ∧ 1 < k.q ∧ k.p * k.q = k.modulus
      ∧ k.publicExponent * k.privateExponent % (k.p - 1) = 1
      ∧ k.publicExponent * k.privateExponent % (k.q - 1) = 1
      ∧ k.dp = k.privateExponent % (k.p - 1) ∧ k.dq = k.privateExponent % (k.q - 1)
      ∧ k.qInverse < k.p ∧ k.q * k.qInverse % k.p = 1)
    ⟨fun ⟨a, b, c, d, e, f, g, h, i, j, l, m, n, o, p⟩ =>
        ⟨a, b, c, d, e, f, g, h, i, j, l, m, n, o, p⟩,
      fun ⟨a, b, c, d, e, f, g, h, i, j, l, m, n, o, p⟩ =>
        ⟨a, b, c, d, e, f, g, h, i, j, l, m, n, o, p⟩⟩

/-- The key itself if it is sound. -/
def sound? (k : Rsa) : Option Rsa :=
  if k.IsSound then some k else none

/-! ## Keys from a seed -/

/-- Candidates tried for one prime. The odds of needing this many are nil. -/
def patience : Nat := 1000000

/-- Draws pairs of primes until one makes a key. -/
def draw? (isPrime : Nat → Bool) : (rounds : Nat) → Keystream → Option Rsa
  | 0, _ => none
  | rounds + 1, s => do
    let (p, s) ← Prime.find? isPrime (bits / 2) patience s
    let (q, s) ← Prime.find? isPrime (bits / 2) patience s
    match ofPrimes? p q with
    | some key => some key
    | none => draw? isPrime rounds s

/-- The key of a seed, which is looked through before it is used. -/
def ofSeed? (isPrime : Nat → Bool) (seed : Bytes) : Option Rsa :=
  draw? isPrime 1000 (.ofSeed seed) >>= sound?

end Rsa

end ShellGateway.HostKey
