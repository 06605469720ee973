import ShellGateway.HostKey.Keystream

/-!
# The law of keystreams

A keystream keeps one block at a time, and requests take pieces of any size from
it. They might as well take them from one infinite string, the concatenation of
the blocks of its seed from the one after the first steps on: `byteAt seed` is
that string, and after requests for `t` bytes in all, the keystream is
`taken seed t`, whatever the requests were (`answer_taken`). Requests for one
byte are answered without it and leave the keystream where it is.

The steps before the first byte are never taken in these proofs: the keystream
of a seed is known by the states and blocks that its steps go through.
-/

namespace ShellGateway.HostKey.Keystream

open Digest (sha512)

/-! ## States and blocks of a seed -/

/-- The state after `i` steps. -/
def stateOf (seed : Bytes) : Nat → Bytes
  | 0 => (sha512 seed).take stateLength
  | i + 1 => (sha512 (stateOf seed i)).take stateLength

/-- The block that step `i` makes; the first step is step one. -/
def blockOf (seed : Bytes) : Nat → Bytes
  | 0 => []
  | i + 1 => (sha512 (stateOf seed i)).drop stateLength

/-- The blocks that are used, one after the other: the first `m` of them. -/
def blocksOf (seed : Bytes) (m : Nat) : Bytes :=
  (List.range m).flatMap fun i => blockOf seed (preSteps + 1 + i)

theorem length_blockOf (seed : Bytes) (i : Nat) : (blockOf seed (i + 1)).length = blockLength := by
  simp [blockOf, stateLength, blockLength]

/-- A keystream after some steps, with part of the last block used up. -/
def after (seed : Bytes) (i offset : Nat) : Keystream :=
  { state := stateOf seed i, block := blockOf seed i, offset }

theorem step_after (seed : Bytes) (i offset : Nat) :
    (after seed i offset).step = after seed (i + 1) 0 :=
  rfl

theorem steps_after (seed : Bytes) (n i offset : Nat) :
    steps (n + 1) (after seed i offset) = after seed (i + n + 1) 0 := by
  induction n generalizing i offset with
  | zero => rfl
  | succ n ih =>
    rw [steps, step_after, ih]
    congr 1
    omega

/-- The first step forgets the block that a keystream starts with. -/
theorem steps_succ (n : Nat) (s : Keystream) (block : Bytes) (offset : Nat) :
    steps (n + 1) { s with block, offset } = steps (n + 1) s :=
  rfl

/-- What a keystream of a seed is before its first byte. -/
theorem ofSeed_eq (seed : Bytes) : ofSeed seed = after seed preSteps blockLength := by
  have started : ∀ n block offset,
      steps (n + 1) { state := stateOf seed 0, block, offset } = after seed (n + 1) 0 := by
    intro n block offset
    have h := steps_after seed n 0 offset
    rw [Nat.zero_add] at h
    exact (steps_succ n (after seed 0 offset) block offset).trans h
  -- there is a first step, and that is all that is used of their number
  have pre : preSteps = 2047 + 1 := rfl
  unfold ofSeed
  rw [pre]
  dsimp only
  rw [show (sha512 seed).take stateLength = stateOf seed 0 from rfl, started]
  rfl

/-! ## The string of a seed -/

/-- Byte `j` of the blocks that are used. -/
def byteAt (seed : Bytes) (j : Nat) : UInt8 :=
  (blockOf seed (preSteps + 1 + j / blockLength)).getD (j % blockLength) 0

/-- The `n` bytes from byte `t` on. -/
def bytesFrom (seed : Bytes) (t n : Nat) : Bytes :=
  (List.range' t n).map (byteAt seed)

theorem length_bytesFrom (seed : Bytes) (t n : Nat) : (bytesFrom seed t n).length = n := by
  simp [bytesFrom]

theorem bytesFrom_append (seed : Bytes) (t m n : Nat) :
    bytesFrom seed t m ++ bytesFrom seed (t + m) n = bytesFrom seed t (m + n) := by
  simp only [bytesFrom, ← List.map_append, ← List.range'_append, Nat.one_mul]

/-- A piece of a block is a piece of the string. -/
theorem piece_eq (seed : Bytes) (q : Nat) {offset n : Nat} (h : offset + n ≤ blockLength) :
    ((blockOf seed (preSteps + 1 + q)).drop offset).take n =
      bytesFrom seed (blockLength * q + offset) n := by
  have hlen : (blockOf seed (preSteps + 1 + q)).length = blockLength := by
    rw [Nat.add_right_comm]
    exact length_blockOf seed _
  refine List.ext_getElem ?_ fun i hi _ => ?_
  · rw [List.length_take, List.length_drop, hlen, length_bytesFrom]
    omega
  · -- byte `i` of the piece is byte `offset + i` of block `q`
    have hin : i < n := Nat.lt_of_lt_of_le hi (List.length_take_le _ _)
    have hpos : 0 < blockLength := by decide
    have hlt : offset + i < blockLength := by omega
    have hdiv : (blockLength * q + offset + i) / blockLength = q := by
      rw [Nat.add_assoc, Nat.mul_add_div hpos, Nat.div_eq_of_lt hlt, Nat.add_zero]
    have hmod : (blockLength * q + offset + i) % blockLength = offset + i := by
      rw [Nat.add_assoc, Nat.mul_add_mod, Nat.mod_eq_of_lt hlt]
    rw [List.getElem_take, List.getElem_drop]
    simp only [bytesFrom, List.getElem_map, List.getElem_range', Nat.one_mul, byteAt]
    rw [hdiv, hmod, List.getD_eq_getElem?_getD, List.getElem?_eq_getElem (by rw [hlen]; exact hlt),
      Option.getD_some]

/-- The string begins with the blocks that are used. -/
theorem blocksOf_eq (seed : Bytes) (m : Nat) :
    blocksOf seed m = bytesFrom seed 0 (blockLength * m) := by
  induction m with
  | zero => rfl
  | succ m ih =>
    have block : blockOf seed (preSteps + 1 + m) =
        bytesFrom seed (blockLength * m) blockLength := by
      have whole : ((blockOf seed (preSteps + 1 + m)).drop 0).take blockLength =
          bytesFrom seed (blockLength * m + 0) blockLength := piece_eq seed m (by decide)
      have hlen : (blockOf seed (preSteps + 1 + m)).length = blockLength := by
        rw [Nat.add_right_comm]
        exact length_blockOf seed _
      rw [List.drop_zero, List.take_of_length_le (Nat.le_of_eq hlen), Nat.add_zero] at whole
      exact whole
    have split := bytesFrom_append seed 0 (blockLength * m) blockLength
    rw [Nat.zero_add] at split
    unfold blocksOf at ih ⊢
    rw [List.range_succ, List.flatMap_append, ih, List.flatMap_singleton, block, split]
    rfl

/-- Any part of the string that the blocks cover is a part of them. -/
theorem take_blocksOf (seed : Bytes) {n m : Nat} (h : n ≤ blockLength * m) :
    (blocksOf seed m).take n = bytesFrom seed 0 n := by
  have split := bytesFrom_append seed 0 n (blockLength * m - n)
  rw [Nat.add_sub_cancel' h] at split
  rw [blocksOf_eq, ← split, List.take_left' (length_bytesFrom seed 0 n)]

/-! ## Taking bytes -/

/-- The keystream of a seed once `t` bytes were taken. It stands at the end of a
block rather than before the next one. -/
def taken (seed : Bytes) (t : Nat) : Keystream :=
  after seed (preSteps + (t + 31) / blockLength)
    (t + blockLength - blockLength * ((t + 31) / blockLength))

theorem ofSeed_eq_taken (seed : Bytes) : ofSeed seed = taken seed 0 :=
  ofSeed_eq seed

/-- Where `t` bytes were taken, the next ones come from this block. -/
theorem opened_taken (seed : Bytes) (t : Nat) :
    (if (taken seed t).offset = blockLength then (taken seed t).step else taken seed t) =
      after seed (preSteps + 1 + t / blockLength) (t % blockLength) := by
  have hoffset : (taken seed t).offset = t + 32 - 32 * ((t + 31) / 32) := rfl
  have hlen : blockLength = 32 := rfl
  rw [hoffset, hlen]
  by_cases ht : t % 32 = 0
  · -- the block is used up
    have hq : (t + 31) / 32 = t / 32 := by omega
    rw [if_pos (by omega), ht]
    unfold taken
    rw [step_after, hlen, hq, Nat.add_right_comm]
  · -- there is some of it left
    have hq : (t + 31) / 32 = t / 32 + 1 := by omega
    rw [if_neg (by omega)]
    unfold taken
    rw [hlen, hq, Nat.add_right_comm, Nat.add_assoc]
    congr 1
    omega

/-- Taking bytes from a block that has them. -/
theorem after_eq_taken (seed : Bytes) {t n : Nat} (hn : 0 < n)
    (h : t % blockLength + n ≤ blockLength) :
    after seed (preSteps + 1 + t / blockLength) (t % blockLength + n) = taken seed (t + n) := by
  have hlen : blockLength = 32 := rfl
  rw [hlen] at h ⊢
  have hq : (t + n + 31) / 32 = t / 32 + 1 := by omega
  unfold taken
  rw [hlen, hq, Nat.add_assoc, Nat.add_comm 1]
  congr 1
  omega

/-- A piece of a block, and the rest from there. -/
theorem draw_succ (seed : Bytes) {fuel need i offset : Nat} {s : Keystream} (hneed : need ≠ 0)
    (hs : (if s.offset = blockLength then s.step else s) = after seed i offset) :
    draw (fuel + 1) need s =
      let k := min (blockLength - offset) need
      let rest := draw fuel (need - k) (after seed i (offset + k))
      (((blockOf seed i).drop offset).take k ++ rest.1, rest.2) := by
  rw [draw, if_neg hneed]
  dsimp only
  rw [hs]
  rfl

/-- **Pieces of blocks make up the string**, however many blocks they come from. -/
theorem draw_taken (seed : Bytes) {fuel need : Nat} (t : Nat) (h : need ≤ fuel) :
    draw fuel need (taken seed t) = (bytesFrom seed t need, taken seed (t + need)) := by
  induction fuel generalizing need t with
  | zero =>
    obtain rfl := Nat.le_zero.mp h
    rfl
  | succ fuel ih =>
    by_cases hneed : need = 0
    · subst hneed
      rfl
    · rw [draw_succ seed hneed (opened_taken seed t)]
      dsimp only
      have hmod : t % blockLength < blockLength := Nat.mod_lt _ (by decide)
      have htake : 0 < min (blockLength - t % blockLength) need := by omega
      have hfits : t % blockLength + min (blockLength - t % blockLength) need ≤ blockLength := by
        omega
      have hleft : min (blockLength - t % blockLength) need ≤ need := Nat.min_le_right _ _
      -- the piece is not empty and within one block; the rest follows by induction
      generalize min (blockLength - t % blockLength) need = k at htake hfits hleft
      have piece := piece_eq seed (t / blockLength) hfits
      rw [Nat.div_add_mod] at piece
      rw [after_eq_taken seed htake hfits, ih (t + k) (by omega), piece, bytesFrom_append,
        Nat.add_assoc, Nat.add_sub_cancel' hleft]

/-- A request for one byte is not a request on the string. -/
theorem fill_taken (seed : Bytes) (t n : Nat) :
    (taken seed t).fill n =
      if n = 1 then ([filler], taken seed t) else (bytesFrom seed t n, taken seed (t + n)) := by
  unfold fill
  rw [draw_taken seed t (Nat.le_refl n)]

/-! ## Requests -/

namespace Request

/-- The request is answered from the string. -/
def draws (r : Request) : Bool :=
  r.length ≠ 1

/-- How much of the string requests use up. -/
def total : List Request → Nat
  | [] => 0
  | r :: rest => (if r.draws then r.length else 0) + total rest

/-- What requests get from the string, one after the other. -/
def drawn (requests : List Request) (outs : List Bytes) : Bytes :=
  ((requests.zip outs).filter (·.1.draws)).flatMap (·.2)

theorem total_cons (r : Request) (rest : List Request) :
    total (r :: rest) = (if r.length = 1 then 0 else r.length) + total rest := by
  by_cases h : r.length = 1
  · simp [total, draws, h]
  · simp [total, draws, h]

theorem drawn_cons (r : Request) (rest : List Request) (out : Bytes) (outs : List Bytes) :
    drawn (r :: rest) (out :: outs) = (if r.length = 1 then [] else out) ++ drawn rest outs := by
  unfold drawn draws
  rw [List.zip_cons_cons]
  by_cases h : r.length = 1
  · rw [if_pos h, List.filter_cons_of_neg (by simp [h]), List.nil_append]
  · rw [if_neg h, List.filter_cons_of_pos (by simp [h]), List.flatMap_cons]

end Request

open Request (total drawn)

/-- The answer to one request, where `t` bytes were taken. -/
theorem answer_cons (seed : Bytes) (t : Nat) (r : Request) (rest : List Request) :
    (taken seed t).answer (r :: rest) =
      let s := taken seed (t + if r.length = 1 then 0 else r.length)
      let out := if r.length = 1 then [filler] else bytesFrom seed t r.length
      (out :: (s.answer rest).1, (s.answer rest).2) := by
  rw [answer, fill_taken]
  by_cases h : r.length = 1
  · simp only [if_pos h, Nat.add_zero]
  · simp only [if_neg h]

/-- **Whatever the requests, the string is used up from where it stands.** -/
theorem answer_taken (seed : Bytes) (t : Nat) (requests : List Request) :
    drawn requests ((taken seed t).answer requests).1 = bytesFrom seed t (total requests) ∧
      ((taken seed t).answer requests).2 = taken seed (t + total requests) := by
  induction requests generalizing t with
  | nil => exact ⟨rfl, rfl⟩
  | cons r rest ih =>
    rw [answer_cons, Request.total_cons]
    dsimp only
    obtain ⟨houts, hs⟩ := ih (t + if r.length = 1 then 0 else r.length)
    rw [Request.drawn_cons, houts, hs, Nat.add_assoc]
    refine ⟨?_, rfl⟩
    by_cases h : r.length = 1
    · rw [if_pos h, if_pos h, List.nil_append, Nat.add_zero, Nat.zero_add]
    · rw [if_neg h, if_neg h, if_neg h, bytesFrom_append]

/-- Every request gets as many bytes as it asks for; one byte is always the filler. -/
theorem answer_each (seed : Bytes) (t : Nat) (requests : List Request) :
    (((taken seed t).answer requests).1.length = requests.length) ∧
      ∀ x ∈ requests.zip ((taken seed t).answer requests).1,
        x.2.length = x.1.length ∧ (x.1.length = 1 → x.2 = [filler]) := by
  induction requests generalizing t with
  | nil => exact ⟨rfl, fun x hx => by cases hx⟩
  | cons r rest ih =>
    rw [answer_cons]
    dsimp only
    obtain ⟨hlen, heach⟩ := ih (t + if r.length = 1 then 0 else r.length)
    refine ⟨congrArg Nat.succ hlen, ?_⟩
    rw [List.zip_cons_cons, List.forall_mem_cons]
    refine ⟨?_, heach⟩
    by_cases h : r.length = 1
    · rw [if_pos h]
      exact ⟨h.symm, fun _ => rfl⟩
    · rw [if_neg h]
      exact ⟨length_bytesFrom seed t _, fun h' => absurd h' h⟩

/-! ## Numbers -/

/-- The `n` bytes that write a number, least significant byte first. -/
def writeLittleEndian : Nat → Nat → Bytes
  | 0, _ => []
  | n + 1, value => UInt8.ofNat value :: writeLittleEndian n (value / 256)

/-- A number that was read from bytes is written in the same bytes. -/
theorem writeLittleEndian_littleEndian (bytes : Bytes) :
    writeLittleEndian bytes.length (littleEndian bytes) = bytes := by
  induction bytes with
  | nil => rfl
  | cons b rest ih =>
    have hb : b.toNat < 256 := b.toNat_lt
    have hread : littleEndian (b :: rest) = b.toNat + 256 * littleEndian rest := rfl
    have hdiv : (b.toNat + 256 * littleEndian rest) / 256 = littleEndian rest := by omega
    have hfirst : UInt8.ofNat (b.toNat + 256 * littleEndian rest) = b := by
      apply UInt8.toNat_inj.mp
      rw [UInt8.toNat_ofNat']
      omega
    rw [List.length_cons, writeLittleEndian, hread, hdiv, ih, hfirst]

/-! ## The law -/

/-- **Requests are answered from the blocks of the seed.** What requests other
than for one byte get is the beginning of the blocks, in order; requests for one
byte get zero; and how the keystream goes on depends on the seed and on how much
was used up, and on nothing else about the requests. -/
theorem keystream_law (seed : Bytes) (requests : List Request) :
    let outs := ((ofSeed seed).answer requests).1
    (∀ m, total requests ≤ blockLength * m →
      drawn requests outs = (blocksOf seed m).take (total requests)) ∧
    (outs.length = requests.length ∧ ∀ x ∈ requests.zip outs,
      x.2.length = x.1.length ∧ (x.1.length = 1 → x.2 = [0]) ∧
        writeLittleEndian x.1.length (littleEndian x.2) = x.2) ∧
    ∀ others, total others = total requests →
      drawn others ((ofSeed seed).answer others).1 = drawn requests outs ∧
        ∀ more, ((ofSeed seed).answer others).2.answer more =
          ((ofSeed seed).answer requests).2.answer more := by
  rw [ofSeed_eq_taken]
  intro outs
  obtain ⟨hdrawn, hstream⟩ := answer_taken seed 0 requests
  obtain ⟨hlength, heach⟩ := answer_each seed 0 requests
  refine ⟨fun m hm => ?_, ⟨hlength, fun x hx => ?_⟩, fun others hothers => ?_⟩
  · rw [hdrawn, take_blocksOf seed hm]
  · obtain ⟨hx, hone⟩ := heach x hx
    refine ⟨hx, hone, ?_⟩
    rw [← hx, writeLittleEndian_littleEndian]
  · obtain ⟨hdrawn', hstream'⟩ := answer_taken seed 0 others
    refine ⟨by rw [hdrawn', hdrawn, hothers], fun more => ?_⟩
    rw [hstream', hstream, hothers]

end ShellGateway.HostKey.Keystream
