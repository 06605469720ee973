import ShellGateway.Proofs.HostKey.Armour
import ShellGateway.Proofs.HostKey.Encoding
import ShellGateway.Proofs.HostKey.Factors

/-!
# A seeded key from end to end

A seed gives a key, the key a text, the text is read, written as a record that names the key's
algorithm, read again, and the public half goes to whoever connects. Every step but the first can
be undone, so the key whose public half is shown is the key of the seed: `seeded_key_consistent`
says what the text holds, what is true of the key in it, and what a peer reads.

What is known of the key rests on one assumption, that the test for primes accepts nothing else.
Without it the factors might be even, and a reader would refuse the key.
-/

namespace ShellGateway.HostKey

open Keystream (bigEndian)

/-! ## What a peer reads -/

namespace PublicKey

/-- Takes a byte string: its length in four bytes, and the contents. -/
def takeString? : Bytes → Option (Bytes × Bytes)
  | a :: b :: c :: d :: rest =>
    let n := bigEndian [a, b, c, d]
    if n ≤ rest.length then some (rest.take n, rest.drop n) else none
  | _ => none

/-- Takes a positive number: a byte string as short as the sign allows. -/
def takeNumber? (bytes : Bytes) : Option (Nat × Bytes) := do
  let (contents, rest) ← takeString? bytes
  let n := bigEndian contents
  if 0 < n ∧ contents = Der.signed n then some (n, rest) else none

/-- The algorithm, the exponent and the modulus that the bytes of an RSA key hold. -/
def read? (key : PublicKey) : Option (Bytes × Nat × Nat) := do
  let (algorithm, rest) ← takeString? key.bytes
  let (exponent, rest) ← takeNumber? rest
  let (modulus, rest) ← takeNumber? rest
  if rest = [] then some (algorithm, exponent, modulus) else none

theorem bigEndian_wireLength {n : Nat} (small : n < 4294967296) :
    bigEndian (wireLength n) = n := by
  have byte : ∀ m, (UInt8.ofNat m).toNat = m % 256 := fun m => UInt8.toNat_ofNat'
  simp only [bigEndian, wireLength, List.foldl_cons, List.foldl_nil, byte]
  omega

/-- A byte string is read back. -/
theorem takeString?_wireString {contents : Bytes} (short : contents.length < 4294967296)
    (rest : Bytes) : takeString? (wireString contents ++ rest) = some (contents, rest) := by
  have length := bigEndian_wireLength short
  have fits : contents.length ≤ (contents ++ rest).length := by simp
  rw [wireString, List.append_assoc]
  simp only [wireLength] at length
  simp only [wireLength, List.cons_append, List.nil_append, takeString?, length, if_pos fits,
    List.take_left, List.drop_left]

/-- A number is read back. -/
theorem takeNumber?_wireString {n : Nat} (positive : 0 < n)
    (short : (Der.signed n).length < 4294967296) (rest : Bytes) :
    takeNumber? (wireString (Der.signed n) ++ rest) = some (n, rest) := by
  rw [takeNumber?, takeString?_wireString short, Option.bind_eq_bind, Option.bind_some]
  dsimp only
  rw [Der.bigEndian_signed, if_pos ⟨positive, rfl⟩]

end PublicKey

/-- **A peer reads the exponent and the modulus of the key.** -/
theorem Rsa.read?_publicKey {k : Rsa} (exponent : 0 < k.publicExponent) (modulus : 0 < k.modulus)
    (bounded : k.IsBounded) : k.publicKey.read? =
      some (.ofText rsaAlgorithm, k.publicExponent, k.modulus) := by
  have short : ∀ n ∈ k.numbers, (Der.signed n).length < 4294967296 := fun n hn =>
    (Der.length_signed (bounded n hn)).trans_lt (by decide)
  have named : (Bytes.ofText rsaAlgorithm).length < 4294967296 := by decide +kernel
  have name := PublicKey.takeString?_wireString named
    (wireString (Der.signed k.publicExponent) ++ wireString (Der.signed k.modulus))
  have first := PublicKey.takeNumber?_wireString exponent (short _ (by simp [numbers]))
    (wireString (Der.signed k.modulus))
  have second := PublicKey.takeNumber?_wireString modulus (short _ (by simp [numbers])) []
  rw [List.append_nil] at second
  rw [PublicKey.read?, publicKey, List.append_assoc]
  simp only [name, first, second, Option.bind_eq_bind, Option.bind_some, if_true]

/-! ## From end to end -/

/-- A text holds a key: between its first and its last line, on lines of 64 letters, it holds a
sequence of nine numbers, the first of which is the version. Each is written as shortly as its sign
allows, and there is nothing else. -/
def Pem.Holds (text : String) (k : Rsa) : Prop :=
  ∃ bytes contents, Pem.decode? .rsaKey text.toList = some bytes ∧
    Der.takeItem? Der.sequenceTag bytes = some (contents, []) ∧
    Der.takeIntegers? 9 contents = some (k.numbers, []) ∧ Der.IsRow k.numbers contents

/-- The key that is made of a seed has numbers that can be written. -/
theorem Rsa.IsMade.isBounded {k : Rsa} (made : k.IsMade) : k.IsBounded := by
  have modulus : k.modulus < Nat.pow 2 (8 * widest) := lt_of_size (Nat.le_of_eq made.size)
  rw [Der.pow_bytes] at modulus
  intro n hn
  obtain rfl | among := List.mem_cons.mp hn
  · exact Nat.zero_lt_of_lt modulus
  · exact (made.le_modulus n among).trans_lt modulus

theorem Pem.decode?_ofRsa (k : Rsa) : decode? .rsaKey (ofRsa k).toList = some (Der.ofRsa k) := by
  rw [ofRsa, String.toList_ofList]
  exact decode?_encode .rsaKey _

/-- What is written of such a key holds it. -/
theorem Pem.holds_ofRsa {k : Rsa} (bounded : k.IsBounded) : Holds (ofRsa k) k := by
  obtain ⟨whole, numbers⟩ := Der.takeIntegers?_ofRsa bounded
  exact ⟨_, _, decode?_ofRsa k, whole, numbers, Der.isRow_flatMap k.numbers⟩

theorem Pem.toRsa?_ofRsa {k : Rsa} (bounded : k.IsBounded) : toRsa? (ofRsa k) = some k := by
  rw [toRsa?, decode?_ofRsa, Option.bind_eq_bind, Option.bind_some]
  exact Der.toRsa?_ofRsa bounded

theorem Pem.toNamed?_ofNamed {k : Rsa} (bounded : k.IsBounded) : toNamed? (ofNamed k) = some k := by
  have short : (Der.ofRsa k).length < 60000 := (Der.length_ofRsa bounded).trans_lt (by decide)
  rw [toNamed?, ofNamed, String.toList_ofList, decode?_encode]
  simp only [Option.bind_eq_bind, Option.bind_some, Der.takeNamed?_named short,
    Der.toRsa?_ofRsa bounded]

/-- **A sound key is the same after both readings.** -/
theorem Source.readSeeded_ofRsa {k : Rsa} (bounded : k.IsBounded) (sound : k.IsSound) :
    readSeeded (Pem.ofRsa k) = .ok k.publicKey := by
  have kept : k.sound? = some k := if_pos sound
  rw [readSeeded, Pem.toRsa?_ofRsa bounded, Option.bind_eq_bind, Option.bind_some, kept]
  dsimp only
  rw [Pem.toNamed?_ofNamed bounded, Option.bind_some, kept]

section

variable {isPrime : Nat → Bool} {around : Source.Surroundings} {s : String}

theorem Source.load_of_none (hs : s ≠ "") (nothing : seededText? isPrime (.ofText s) = none) :
    load isPrime around (.seed s) = .error (.key "rsa error: no key found") := by
  have given : s.isEmpty ≠ true := by simpa using hs
  rw [load, if_neg given, nothing, readGiven]

theorem Source.load_of_some {text : String} (hs : s ≠ "")
    (found : seededText? isPrime (.ofText s) = some text) :
    load isPrime around (.seed s) = readSeeded text := by
  have given : s.isEmpty ≠ true := by simpa using hs
  rw [load, if_neg given, found, readGiven]

/-- **A seeded key is consistent from end to end.** If the test for primes accepts nothing else,
a seed that is not empty either gives no key, and loading it fails for that reason; or it gives a
text that holds a proper key of two primes, and loading it gives the public half of this key. -/
theorem seeded_key_consistent (sound : ∀ n, isPrime n = true → n.Prime)
    (around : Source.Surroundings) (hs : s ≠ "") :
    (Source.seededText? isPrime (.ofText s) = none →
      Source.load isPrime around (.seed s) = .error (.key "rsa error: no key found")) ∧
    ∀ text, Source.seededText? isPrime (.ofText s) = some text →
      ∃ k, Pem.Holds text k ∧ k.IsProper ∧ k.p.Prime ∧ k.q.Prime ∧ ∃ key,
        Source.load isPrime around (.seed s) = .ok key ∧
          key.read? = some (.ofText rsaAlgorithm, k.publicExponent, k.modulus) := by
  constructor
  · exact Source.load_of_none hs
  · intro text given
    obtain ⟨k, drawn, rfl⟩ := Option.map_eq_some_iff.mp given
    rw [Rsa.ofSeed?_eq_draw? sound] at drawn
    obtain ⟨made, p_prime, q_prime, belongs⟩ := Rsa.isSound_of_draw? sound drawn
    have bounded := made.isBounded
    have exponent : 0 < k.publicExponent := by
      rw [made.exponent]
      decide
    have modulus : 0 < k.modulus := Nat.size_pos.mp (by rw [made.size]; decide)
    refine ⟨k, Pem.holds_ofRsa bounded, made.toIsProper, p_prime, q_prime, k.publicKey, ?_, ?_⟩
    · exact (Source.load_of_some hs given).trans (Source.readSeeded_ofRsa bounded belongs)
    · exact Rsa.read?_publicKey exponent modulus bounded

/-- A test that accepts nothing finds no key. -/
theorem Source.seededText?_of_never (never : ∀ n, isPrime n = false) (seed : Bytes) :
    seededText? isPrime seed = none := by
  have sound : ∀ n, isPrime n = true → n.Prime := fun n accepted =>
    absurd ((never n).symm.trans accepted) Bool.false_ne_true
  rw [seededText?, Rsa.ofSeed?_eq_draw? sound, Option.map_eq_none_iff,
    Option.eq_none_iff_forall_ne_some]
  intro k drawn
  exact absurd ((never k.p).symm.trans (Rsa.draw?_eq_some drawn).2.1) Bool.false_ne_true

/-- A seed with two sound tests, and nothing else to draw on: a test that accepts nothing, which
finds no key, and the one that accepts every prime, with which either no key is found or the key
that is found is consistent. -/
theorem seeded_key_consistent_webssh :
    let never : Nat → Bool := fun _ => false
    let exact : Nat → Bool := fun n => decide n.Prime
    let around : Source.Surroundings := ⟨fun _ => none, []⟩
    (∀ n, never n = true → n.Prime) ∧ (∀ n, exact n = true → n.Prime) ∧ "webssh" ≠ "" ∧
      Source.seededText? never (.ofText "webssh") = none ∧
      Source.load never around (.seed "webssh") = .error (.key "rsa error: no key found") ∧
      (Source.seededText? exact (.ofText "webssh") = none ∧
          Source.load exact around (.seed "webssh") = .error (.key "rsa error: no key found") ∨
        ∃ text k key, Source.seededText? exact (.ofText "webssh") = some text ∧
          Pem.Holds text k ∧ k.IsProper ∧ k.p.Prime ∧ k.q.Prime ∧
          Source.load exact around (.seed "webssh") = .ok key ∧
          key.read? = some (.ofText rsaAlgorithm, k.publicExponent, k.modulus)) := by
  intro never exact around
  have never_sound : ∀ n, never n = true → n.Prime := nofun
  have exact_sound : ∀ n, exact n = true → n.Prime := fun _ => of_decide_eq_true
  have given : "webssh" ≠ "" := by decide
  have nothing : Source.seededText? never (.ofText "webssh") = none :=
    Source.seededText?_of_never (fun _ => rfl) _
  refine ⟨never_sound, exact_sound, given, nothing,
    (seeded_key_consistent never_sound around given).1 nothing, ?_⟩
  obtain ⟨refused, read⟩ := seeded_key_consistent exact_sound around given
  cases found : Source.seededText? exact (.ofText "webssh") with
  | none => exact .inl ⟨rfl, refused found⟩
  | some text =>
    obtain ⟨k, holds, proper, p_prime, q_prime, key, loaded, shown⟩ := read text found
    exact .inr ⟨text, k, key, rfl, holds, proper, p_prime, q_prime, loaded, shown⟩

end

end ShellGateway.HostKey
