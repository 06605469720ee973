import ShellGateway.Failure
import ShellGateway.HostKey.Pem
import ShellGateway.Text.Description

/-!
# Host keys

The key by which clients recognise the daemon comes from one of four places: a
key pair at hand, a key text, a file that holds one, or a seed. A non-empty
seed always gives the same key; an empty seed stands for a fresh random one.

Loading a seeded key writes the key's text and reads it back, and does the same
with the record that names its algorithm, so that a key that could not be stored
is never used.
-/

namespace ShellGateway.HostKey

/-- The public half of a key, as peers see it: the name of its algorithm and
its bytes on the wire. -/
structure PublicKey where
  algorithm : String
  bytes : Bytes
  deriving DecidableEq, Repr

/-- A length in four bytes, most significant first. -/
def wireLength (n : Nat) : Bytes :=
  [UInt8.ofNat (n / 16777216), UInt8.ofNat (n / 65536), UInt8.ofNat (n / 256), UInt8.ofNat n]

/-- A byte string on the wire: length and contents. -/
def wireString (contents : Bytes) : Bytes :=
  wireLength contents.length ++ contents

/-- The algorithm that RSA keys sign with. -/
def rsaAlgorithm : String := "rsa-sha2-256"

/-- The public half of an RSA key. -/
def Rsa.publicKey (k : Rsa) : PublicKey where
  algorithm := rsaAlgorithm
  bytes :=
    wireString (.ofText rsaAlgorithm) ++ wireString (Der.signed k.publicExponent)
      ++ wireString (Der.signed k.modulus)

/-- Where a host key comes from. -/
inductive Source where
  | pair (key : PublicKey)
  | text (pem : String)
  | file (path : String)
  | seed (text : String)
  deriving DecidableEq, Repr

namespace Source

/-- A fresh random key. -/
def random : Source := .seed ""

/-- What loading a key may draw on: files by path, and random bytes. -/
structure Surroundings where
  fileText : String → Option String
  entropy : Bytes

/-- The key that a text holds. -/
def readText (pem : String) : Except Failure PublicKey :=
  match Pem.toRsa? pem >>= Rsa.sound? with
  | some k => .ok k.publicKey
  | none => .error (.keyLoad "Could not read key")

/-- The text of the key that a seed gives. -/
def seededText? (isPrime : Nat → Bool) (seed : Bytes) : Option String :=
  (Rsa.ofSeed? isPrime seed).map Pem.ofRsa

/-- The key that the text of a seeded key holds, by way of its record. -/
def readSeeded (pem : String) : Except Failure PublicKey :=
  match Pem.toRsa? pem >>= Rsa.sound? with
  | none => .error (.key "PKCS1 decode error: malformed key")
  | some k =>
    match Pem.toNamed? (Pem.ofNamed k) >>= Rsa.sound? with
    | some k => .ok k.publicKey
    | none => .error (.keyLoad "Could not read key")

/-- The key of a seed, by way of the text that the seed gave. -/
def readGiven : Option String → Except Failure PublicKey
  | none => .error (.key "rsa error: no key found")
  | some pem => readSeeded pem

/-- Loads the key. -/
def load (isPrime : Nat → Bool) (around : Surroundings) : Source → Except Failure PublicKey
  | pair key => .ok key
  | text pem => readText pem
  | file path =>
    match around.fileText path with
    | some pem => readText pem
    | none => .error (.keyLoad "No such file or directory")
  | seed s =>
    readGiven (seededText? isPrime (if s.isEmpty then around.entropy else .ofText s))

/-- The source, without what it holds. -/
def outline : Source → Text.Outline
  | pair _ => .word "Key(..)"
  | text _ => .word "Pem(..)"
  | file path => .call "Path" (.text path)
  | seed s => if s.isEmpty then .word "Random" else .word "Seed(..)"

/-- The description of a source. -/
def describe (s : Source) : String := s.outline.toText

end Source

end ShellGateway.HostKey
