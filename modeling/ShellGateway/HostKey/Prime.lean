import ShellGateway.HostKey.Keystream

/-!
# Primes from a keystream

A prime is found by drawing odd numbers whose two highest bits are set,
stepping each to the next even distance at which no small prime divides it, and
keeping the first that passes a test. The test is a parameter of the search:
what is derived from the primes holds for every test that accepts nothing but
primes. `strong` is the test in use, the strong pseudoprime test to the first
thirty-two prime bases.
-/

namespace ShellGateway.HostKey.Prime

/-- The remainder of a power, by repeated squaring. -/
def powMod (base exponent modulus : Nat) : Nat :=
  if exponent = 0 then 1 % modulus
  else
    let half := powMod base (exponent / 2) modulus
    let square := half * half % modulus
    if exponent % 2 = 1 then square * base % modulus else square
termination_by exponent

/-- The odd part of a number and how often two divides it. The first argument
bounds the number of halvings. -/
def oddPart : Nat → Nat → Nat × Nat
  | 0, n => (n, 0)
  | fuel + 1, n =>
    if n % 2 = 0 then
      let (odd, twos) := oddPart fuel (n / 2)
      (odd, twos + 1)
    else (n, 0)

/-- Whether minus one comes up among `x` and its next squares. -/
def reachesMinusOne (n : Nat) : Nat → Nat → Bool
  | 0, _ => false
  | squarings + 1, x => x == n - 1 || reachesMinusOne n squarings (x * x % n)

/-- Whether `base` is no witness that `n` is composite. -/
def passes (n base : Nat) : Bool :=
  let (odd, twos) := oddPart n.log2 (n - 1)
  let x := powMod base odd n
  x == 1 || reachesMinusOne n twos x

/-- The first thirty-two primes. -/
def bases : List Nat :=
  [2, 3, 5, 7, 11, 13, 17, 19, 23, 29, 31, 37, 41, 43, 47, 53, 59, 61, 67, 71, 73, 79, 83, 89, 97,
   101, 103, 107, 109, 113, 127, 131]

/-- The strong pseudoprime test to the first thirty-two prime bases. -/
def strong (n : Nat) : Bool :=
  if n < 2 then false
  else if bases.contains n then true
  else if n % 2 = 0 then false
  else bases.all (passes n)

/-- The primes that candidates are sieved by. -/
def sievePrimes : List Nat :=
  [3, 5, 7, 11, 13, 17, 19, 23, 29, 31, 37, 41, 43, 47, 53]

/-- The product of the sieve's primes. -/
def sieveProduct : Nat := 16294579238595022365

/-- Distances from a candidate that are tried, in steps of two. -/
def sieveSteps : Nat := 524288

/-- The least distance `delta`, `delta + 2`, … at which no prime of the sieve
divides, zero if none is found in `tries` tries. -/
def sieveFrom (remainder : Nat) : (tries delta : Nat) → Nat
  | 0, _ => 0
  | tries + 1, delta =>
    if sievePrimes.all fun p => (remainder + delta) % p != 0 then delta
    else sieveFrom remainder tries (delta + 2)

/-- Sets the two highest bits of the first byte and the lowest of the last. -/
def shape (bytes : Bytes) : Nat :=
  let n := Keystream.bigEndian bytes
  let top := Nat.pow 2 (8 * bytes.length - 1) + Nat.pow 2 (8 * bytes.length - 2)
  n ||| top ||| 1

/-- A candidate of `bits` bits: a drawn number moved past the sieve. -/
def candidate (bits : Nat) (s : Keystream) : Nat × Keystream :=
  let (bytes, s) := s.fill (bits / 8)
  let n := shape bytes
  (n + sieveFrom (n % sieveProduct) sieveSteps 0, s)

/-- The first candidate of exactly `bits` bits that passes the test. -/
def find? (isPrime : Nat → Bool) (bits : Nat) : (tries : Nat) → Keystream → Option (Nat × Keystream)
  | 0, _ => none
  | tries + 1, s =>
    let (n, s) := candidate bits s
    if n < Nat.pow 2 bits && isPrime n then some (n, s) else find? isPrime bits tries s

end ShellGateway.HostKey.Prime
