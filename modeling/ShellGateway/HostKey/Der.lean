import ShellGateway.HostKey.Rsa

/-!
# DER

The binary form of private keys (PKCS #1): a sequence of nine non-negative
integers. It can be put into a record that names the algorithm of the key
(PKCS #8). Integers are as short as their sign allows: a zero byte stands in
front exactly when the first bit would otherwise be set. Lengths below 128 are
one byte; longer ones are preceded by the number of their bytes.
-/

namespace ShellGateway.HostKey.Der

/-- The bytes of a positive number, most significant first, in front of `acc`;
zero has none. The first argument bounds their number. -/
def magnitudeOnto : Nat → Nat → Bytes → Bytes
  | 0, _, acc => acc
  | fuel + 1, n, acc =>
    if n = 0 then acc else magnitudeOnto fuel (n / 256) (UInt8.ofNat (n % 256) :: acc)

/-- The bytes of a positive number without leading zeros. -/
def magnitude (n : Nat) : Bytes :=
  magnitudeOnto (n.log2 + 1) n []

/-- The contents of an integer: its bytes with room for the sign. -/
def signed (n : Nat) : Bytes :=
  match magnitude n with
  | [] => [0]
  | b :: rest => if b < 0x80 then b :: rest else 0 :: b :: rest

/-- A length. -/
def lengthBytes (n : Nat) : Bytes :=
  if n < 128 then [UInt8.ofNat n]
  else
    let bytes := magnitude n
    UInt8.ofNat (128 + bytes.length) :: bytes

/-- The tags in use. -/
def integerTag : UInt8 := 0x02
def bytesTag : UInt8 := 0x04
def nothingTag : UInt8 := 0x05
def nameTag : UInt8 := 0x06
def sequenceTag : UInt8 := 0x30

/-- A tagged item. -/
def item (tag : UInt8) (contents : Bytes) : Bytes :=
  tag :: lengthBytes contents.length ++ contents

/-- An integer. -/
def integer (n : Nat) : Bytes :=
  item integerTag (signed n)

/-- The version of keys with two primes. -/
def version : Nat := 0

/-- A private key. -/
def ofRsa (k : Rsa) : Bytes :=
  item sequenceTag <|
    ([version, k.modulus, k.publicExponent, k.privateExponent, k.p, k.q, k.dp, k.dq,
      k.qInverse].flatMap integer)

/-- The algorithm of RSA keys, by its registered name and without parameters. -/
def rsaAlgorithm : Bytes :=
  item sequenceTag
    (item nameTag [0x2A, 0x86, 0x48, 0x86, 0xF7, 0x0D, 0x01, 0x01, 0x01] ++ item nothingTag [])

/-- The record that names the algorithm of an RSA key and holds the key. -/
def named (key : Bytes) : Bytes :=
  item sequenceTag (integer version ++ rsaAlgorithm ++ item bytesTag key)

/-! ## Reading -/

/-- Takes a length in its shortest form. -/
def takeLength? : Bytes → Option (Nat × Bytes)
  | [] => none
  | b :: rest =>
    if b < 0x80 then some (b.toNat, rest)
    else
      let count := b.toNat - 128
      let bytes := rest.take count
      let n := Keystream.bigEndian bytes
      if bytes.length = count ∧ lengthBytes n = b :: bytes then some (n, rest.drop count) else none

/-- Takes an item with the given tag. -/
def takeItem? (tag : UInt8) : Bytes → Option (Bytes × Bytes)
  | [] => none
  | b :: rest =>
    if b = tag then do
      let (n, rest) ← takeLength? rest
      let contents := rest.take n
      if contents.length = n then some (contents, rest.drop n) else none
    else none

/-- Takes a non-negative integer in its shortest form. -/
def takeInteger? (bytes : Bytes) : Option (Nat × Bytes) := do
  let (contents, rest) ← takeItem? integerTag bytes
  let n := Keystream.bigEndian contents
  if contents = signed n then some (n, rest) else none

/-- Takes the given number of integers. -/
def takeIntegers? : Nat → Bytes → Option (List Nat × Bytes)
  | 0, bytes => some ([], bytes)
  | count + 1, bytes => do
    let (n, rest) ← takeInteger? bytes
    let (ns, rest) ← takeIntegers? count rest
    return (n :: ns, rest)

/-- The private key that bytes write. -/
def toRsa? (bytes : Bytes) : Option Rsa := do
  let (contents, after) ← takeItem? sequenceTag bytes
  let (ns, rest) ← takeIntegers? 9 contents
  match ns, after, rest with
  | [v, modulus, publicExponent, privateExponent, p, q, dp, dq, qInverse], [], [] =>
    if v = version then
      some { modulus, publicExponent, privateExponent, p, q, dp, dq, qInverse }
    else none
  | _, _, _ => none

/-- The RSA key that a record holds. -/
def takeNamed? (bytes : Bytes) : Option Bytes := do
  let (contents, after) ← takeItem? sequenceTag bytes
  let (v, rest) ← takeInteger? contents
  let algorithm := rest.take rsaAlgorithm.length
  let (key, rest) ← takeItem? bytesTag (rest.drop rsaAlgorithm.length)
  if v = version ∧ algorithm = rsaAlgorithm ∧ after = [] ∧ rest = [] then some key else none

end ShellGateway.HostKey.Der
