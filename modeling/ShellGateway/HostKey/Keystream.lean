import ShellGateway.HostKey.Digest
import ShellGateway.Text.Description

/-!
# Keystreams

A keystream turns a seed into as many bytes as are asked for, the same bytes
every time. Each step hashes the state; the first half of the digest is the
next state and the second half is a block of output. A fresh stream takes
`preSteps` steps before its first byte is used.

A request for exactly one byte is answered with `filler` and uses nothing up:
some generators of keys probe their source in this way, and the key must not
depend on whether they do.

The stream is only as unpredictable as its seed.
-/

namespace ShellGateway.HostKey

open Digest (sha512)

/-- A stream: the state, the current block, and how much of it is used up. -/
structure Keystream where
  state : Bytes
  block : Bytes
  offset : Nat
  deriving DecidableEq, Repr

namespace Keystream

/-- The length of the state. -/
def stateLength : Nat := 32

/-- The length of a block. -/
def blockLength : Nat := 32

/-- Steps taken before the first byte is used. -/
def preSteps : Nat := 2048

/-- The answer to a request for one byte. -/
def filler : UInt8 := 0

/-- Hashes the state and starts a new block. -/
def step (s : Keystream) : Keystream :=
  let digest := sha512 s.state
  { state := digest.take stateLength, block := digest.drop stateLength, offset := 0 }

/-- Takes a number of steps. -/
def steps : Nat → Keystream → Keystream
  | 0, s => s
  | n + 1, s => steps n s.step

/-- The stream of a seed. -/
def ofSeed (seed : Bytes) : Keystream :=
  let start : Keystream :=
    { state := (sha512 seed).take stateLength
      block := List.replicate blockLength 0
      offset := blockLength }
  { steps preSteps start with offset := blockLength }

/-- Takes `need` bytes from the current block and the blocks after it. The
first argument bounds the number of pieces. -/
def draw : (pieces need : Nat) → Keystream → Bytes × Keystream
  | 0, _, s => ([], s)
  | fuel + 1, need, s =>
    if need = 0 then ([], s)
    else
      let s := if s.offset = blockLength then s.step else s
      let take := min (blockLength - s.offset) need
      let piece := (s.block.drop s.offset).take take
      let (rest, s') := draw fuel (need - take) { s with offset := s.offset + take }
      (piece ++ rest, s')

/-- Answers a request for `n` bytes. -/
def fill (n : Nat) (s : Keystream) : Bytes × Keystream :=
  if n = 1 then ([filler], s) else draw n n s

/-- The number that bytes write, least significant byte first. -/
def littleEndian (bytes : Bytes) : Nat :=
  bytes.foldr (fun b n => b.toNat + 256 * n) 0

/-- The number that bytes write, most significant byte first. -/
def bigEndian (bytes : Bytes) : Nat :=
  bytes.foldl (fun n b => n * 256 + b.toNat) 0

/-- A request on a stream. -/
inductive Request where
  | bytes (n : Nat)
  | word32
  | word64
  deriving DecidableEq, Repr

/-- How many bytes a request asks for. -/
def Request.length : Request → Nat
  | bytes n => n
  | word32 => 4
  | word64 => 8

/-- The bytes that answer requests, one list for each, and the stream after
them. -/
def answer (s : Keystream) : List Request → List Bytes × Keystream
  | [] => ([], s)
  | r :: rest =>
    let (out, s) := s.fill r.length
    let (outs, s) := answer s rest
    (out :: outs, s)

/-- The stream without its state, from which its future could be told. -/
def describe (_ : Keystream) : String :=
  (Text.Outline.record "SeededStream" [] true).toText

end Keystream

end ShellGateway.HostKey
