import ShellGateway.Text.Bytes

/-!
# SHA-512

The hash of FIPS 180-4 over byte lists. The message is padded to a whole number
of blocks of sixteen words, each block is mixed into eight chaining words in
eighty rounds, and the digest is the chaining words in order, 64 bytes.
-/

namespace ShellGateway.HostKey.Digest

/-- The eight words that are chained from block to block. -/
structure Chain where
  a : UInt64
  b : UInt64
  c : UInt64
  d : UInt64
  e : UInt64
  f : UInt64
  g : UInt64
  h : UInt64
  deriving DecidableEq, Repr

/-- Fractional parts of the square roots of the first eight primes. -/
def Chain.start : Chain where
  a := 0x6A09E667F3BCC908
  b := 0xBB67AE8584CAA73B
  c := 0x3C6EF372FE94F82B
  d := 0xA54FF53A5F1D36F1
  e := 0x510E527FADE682D1
  f := 0x9B05688C2B3E6C1F
  g := 0x1F83D9ABFB41BD6B
  h := 0x5BE0CD19137E2179

/-- Fractional parts of the cube roots of the first eighty primes. -/
def roundWords : List UInt64 :=
  [0x428A2F98D728AE22, 0x7137449123EF65CD, 0xB5C0FBCFEC4D3B2F, 0xE9B5DBA58189DBBC,
   0x3956C25BF348B538, 0x59F111F1B605D019, 0x923F82A4AF194F9B, 0xAB1C5ED5DA6D8118,
   0xD807AA98A3030242, 0x12835B0145706FBE, 0x243185BE4EE4B28C, 0x550C7DC3D5FFB4E2,
   0x72BE5D74F27B896F, 0x80DEB1FE3B1696B1, 0x9BDC06A725C71235, 0xC19BF174CF692694,
   0xE49B69C19EF14AD2, 0xEFBE4786384F25E3, 0x0FC19DC68B8CD5B5, 0x240CA1CC77AC9C65,
   0x2DE92C6F592B0275, 0x4A7484AA6EA6E483, 0x5CB0A9DCBD41FBD4, 0x76F988DA831153B5,
   0x983E5152EE66DFAB, 0xA831C66D2DB43210, 0xB00327C898FB213F, 0xBF597FC7BEEF0EE4,
   0xC6E00BF33DA88FC2, 0xD5A79147930AA725, 0x06CA6351E003826F, 0x142929670A0E6E70,
   0x27B70A8546D22FFC, 0x2E1B21385C26C926, 0x4D2C6DFC5AC42AED, 0x53380D139D95B3DF,
   0x650A73548BAF63DE, 0x766A0ABB3C77B2A8, 0x81C2C92E47EDAEE6, 0x92722C851482353B,
   0xA2BFE8A14CF10364, 0xA81A664BBC423001, 0xC24B8B70D0F89791, 0xC76C51A30654BE30,
   0xD192E819D6EF5218, 0xD69906245565A910, 0xF40E35855771202A, 0x106AA07032BBD1B8,
   0x19A4C116B8D2D0C8, 0x1E376C085141AB53, 0x2748774CDF8EEB99, 0x34B0BCB5E19B48A8,
   0x391C0CB3C5C95A63, 0x4ED8AA4AE3418ACB, 0x5B9CCA4F7763E373, 0x682E6FF3D6B2B8A3,
   0x748F82EE5DEFB2FC, 0x78A5636F43172F60, 0x84C87814A1F0AB72, 0x8CC702081A6439EC,
   0x90BEFFFA23631E28, 0xA4506CEBDE82BDE9, 0xBEF9A3F7B2C67915, 0xC67178F2E372532B,
   0xCA273ECEEA26619C, 0xD186B8C721C0C207, 0xEADA7DD6CDE0EB1E, 0xF57D4F7FEE6ED178,
   0x06F067AA72176FBA, 0x0A637DC5A2C898A6, 0x113F9804BEF90DAE, 0x1B710B35131C471B,
   0x28DB77F523047D84, 0x32CAAB7B40C72493, 0x3C9EBE0A15C9BEBC, 0x431D67C49C100D4C,
   0x4CC5D4BECB3E42B6, 0x597F299CFC657E2A, 0x5FCB6FAB3AD6FAEC, 0x6C44198C4A475817]

/-- Rotation of a word to the right. -/
def rotate (n : UInt64) (x : UInt64) : UInt64 :=
  (x >>> n) ||| (x <<< (64 - n))

/-- One round. -/
def Chain.round (s : Chain) (k w : UInt64) : Chain :=
  let mixE := rotate 14 s.e ^^^ rotate 18 s.e ^^^ rotate 41 s.e
  let choice := (s.e &&& s.f) ^^^ (~~~s.e &&& s.g)
  let t := s.h + mixE + choice + k + w
  let mixA := rotate 28 s.a ^^^ rotate 34 s.a ^^^ rotate 39 s.a
  let majority := (s.a &&& s.b) ^^^ (s.a &&& s.c) ^^^ (s.b &&& s.c)
  { a := t + mixA + majority, b := s.a, c := s.b, d := s.c, e := s.d + t, f := s.e, g := s.f,
    h := s.g }

/-- Word-wise sum. -/
def Chain.add (s t : Chain) : Chain where
  a := s.a + t.a
  b := s.b + t.b
  c := s.c + t.c
  d := s.d + t.d
  e := s.e + t.e
  f := s.f + t.f
  g := s.g + t.g
  h := s.h + t.h

/-- The word that follows sixteen words of the schedule, of which the array's
last sixteen are given. -/
def nextWord (w : Array UInt64) : UInt64 :=
  let ago (back : Nat) : UInt64 := w.getD (w.size - back) 0
  let x := ago 2
  let y := ago 15
  (rotate 19 x ^^^ rotate 61 x ^^^ (x >>> 6)) + ago 7
    + (rotate 1 y ^^^ rotate 8 y ^^^ (y >>> 7)) + ago 16

/-- The schedule of a block: its words and the words derived from them. -/
def schedule : Nat → Array UInt64 → Array UInt64
  | 0, w => w
  | n + 1, w => schedule n (w.push (nextWord w))

/-- Mixes a block of sixteen words into the chain. -/
def Chain.absorb (s : Chain) (block : Array UInt64) : Chain :=
  let words := (schedule 64 block).toList
  s.add ((roundWords.zip words).foldl (fun t kw => t.round kw.1 kw.2) s)

/-- The word that bytes write, most significant byte first. -/
def wordOf (bytes : Bytes) : UInt64 :=
  bytes.foldl (fun w b => (w <<< 8) ||| b.toUInt64) 0

/-- Cuts a list into pieces of `n + 1` items; a last incomplete piece is
dropped. The first argument bounds the number of pieces. -/
def pieces {α : Type} (n : Nat) : Nat → List α → List (List α)
  | 0, _ => []
  | fuel + 1, xs =>
    if (xs.drop n).isEmpty then [] else xs.take (n + 1) :: pieces n fuel (xs.drop (n + 1))

/-- The eight bytes of a word, most significant first. -/
def bytesOf (w : UInt64) : Bytes :=
  [(w >>> 56).toUInt8, (w >>> 48).toUInt8, (w >>> 40).toUInt8, (w >>> 32).toUInt8,
   (w >>> 24).toUInt8, (w >>> 16).toUInt8, (w >>> 8).toUInt8, w.toUInt8]

/-- The message with its padding: a one bit, zeros, and the length in bits. -/
def padded (message : Bytes) : Bytes :=
  let zeros := (239 - message.length % 128) % 128
  message ++ 0x80 :: List.replicate zeros 0 ++ List.replicate 8 0
    ++ bytesOf (UInt64.ofNat (message.length * 8))

/-- The bytes of the chain. -/
def Chain.bytes (s : Chain) : Bytes :=
  bytesOf s.a ++ bytesOf s.b ++ bytesOf s.c ++ bytesOf s.d ++ bytesOf s.e ++ bytesOf s.f
    ++ bytesOf s.g ++ bytesOf s.h

/-- The digest of a message. -/
def sha512 (message : Bytes) : Bytes :=
  let blocks := pieces 127 (message.length + 2) (padded message)
  let chain : Chain :=
    blocks.foldl (fun (s : Chain) block => s.absorb ((pieces 7 16 block).map wordOf).toArray) .start
  chain.bytes

/-- A digest has 64 bytes. -/
@[simp]
theorem length_sha512 (message : Bytes) : (sha512 message).length = 64 := by
  simp [sha512, Chain.bytes, bytesOf]

end ShellGateway.HostKey.Digest
