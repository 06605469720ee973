import Mathlib.Algebra.Order.Floor.Div
import Mathlib.Data.Nat.PSub
import Mathlib.Logic.Relation
import ShellGateway.HostKey.Keystream

/-!
# Filling a destination

Whoever asks for bytes brings a destination, and a loop fills it. A turn of the loop starts a new
block if the last one is used up, and copies what the block has left, or as much of it as there is
room for. Here the loop is written out with the destination that it writes to, and with its bounds
checked (`Filling.turn?`): where a count would be below zero, or a piece not within the block or
the destination, it does not go on. It also notes what it does (`Act`). A request for one byte is
answered without the loop.

A stream has a whole block, used up to a point within it (`Whole`), and what was written and what
is left of the block come to what the blocks have supplied (`OnCourse.supply`). So a turn never goes
out of bounds and copies at least one byte (`BeforeTurn.exists_turn`), and the loop comes to its
end with the answer to the request (`filled`). A block is started when those before it are used
up and there is still a byte to write (`NoneEarly`), so that there are no more of them than it
takes (`BeforeTurn.hashes_eq`).
-/

namespace ShellGateway

namespace Bytes

/-- The bytes from `start` up to `stop`, if they are there. -/
def slice? (bytes : Bytes) (start stop : Nat) : Option Bytes :=
  if start ≤ stop ∧ stop ≤ bytes.length then some ((bytes.drop start).take (stop - start))
  else none

/-- The bytes with others in the place of those from `start` up to `stop`, if those are there and
the others are as many. -/
def overwrite? (bytes : Bytes) (start stop : Nat) (others : Bytes) : Option Bytes :=
  if start ≤ stop ∧ stop ≤ bytes.length ∧ others.length = stop - start then
    some (bytes.take start ++ others ++ bytes.drop stop)
  else none

theorem slice?_add {bytes : Bytes} {start n : Nat} (h : start + n ≤ bytes.length) :
    bytes.slice? start (start + n) = some ((bytes.drop start).take n) := by
  unfold slice?
  rw [if_pos ⟨Nat.le_add_right _ _, h⟩, Nat.add_sub_cancel_left]

theorem overwrite?_add {bytes others : Bytes} {start n : Nat} (h : start + n ≤ bytes.length)
    (hlen : others.length = n) : bytes.overwrite? start (start + n) others =
      some (bytes.take start ++ others ++ bytes.drop (start + n)) := by
  unfold overwrite?
  rw [if_pos ⟨Nat.le_add_right _ _, h, by omega⟩]

end Bytes

namespace HostKey.Keystream

open Relation (ReflTransGen)

/-- How much of the block is left. -/
def left (s : Keystream) : Nat :=
  blockLength - s.offset

/-- The block is a whole one, used up to a point within it. -/
structure Whole (s : Keystream) : Prop where
  block : s.block.length = blockLength
  offset : s.offset ≤ blockLength

/-! ## What is done -/

/-- What is done to answer a request: the state is hashed and a new block started, the one byte
that was asked for is written, or bytes are copied from the block into the destination. -/
inductive Act where
  | hash
  | probe
  | copy (target source length : Nat)
  deriving DecidableEq, Repr

namespace Act

/-- The positions in the destination that are written. -/
def positions : Act → List Nat
  | hash => []
  | probe => [0]
  | copy target _ length => List.range' target length

/-- What is written is within `n` bytes, what is copied is within a block, and it is something. -/
def InRange (n : Nat) : Act → Prop
  | hash => True
  | probe => 0 < n
  | copy target source length =>
    0 < length ∧ target + length ≤ n ∧ source + length ≤ blockLength

end Act

/-- The positions that are written, in order. -/
def positions (log : List Act) : List Nat :=
  log.flatMap Act.positions

/-- How often the state is hashed. -/
def hashes (log : List Act) : Nat :=
  log.count .hash

/-- No block is started before a byte of it is needed: by then all that the blocks before it had
is written, and it is less than `n` bytes. -/
def NoneEarly (s : Keystream) (n : Nat) (log : List Act) : Prop :=
  ∀ before, before ++ [.hash] <+: log →
    (positions before).length = s.left + blockLength * hashes before ∧
      (positions before).length < n

/-- A request under way: the stream, the destination with the bytes written so far, their number,
and what has been done. -/
structure Filling where
  stream : Keystream
  dest : Bytes
  written : Nat := 0
  log : List Act := []

namespace Filling

/-- A new block is started if the last one is used up. -/
def renewed (f : Filling) : Filling :=
  if f.stream.offset = blockLength then
    { f with stream := f.stream.step, log := f.log ++ [.hash] }
  else f

/-- Copies what the block has left, or as much of it as there is room for, if that is within
bounds. -/
def copy? (f : Filling) : Option Filling := do
  let left ← Nat.psub blockLength f.stream.offset
  let room ← Nat.psub f.dest.length f.written
  let length := min left room
  let piece ← Bytes.slice? f.stream.block f.stream.offset (f.stream.offset + length)
  let dest ← Bytes.overwrite? f.dest f.written (f.written + length) piece
  return {
    stream := { f.stream with offset := f.stream.offset + length }
    dest
    written := f.written + length
    log := f.log ++ [.copy f.written f.stream.offset length] }

/-- One turn of the loop. -/
def turn? (f : Filling) : Option Filling :=
  f.renewed.copy?

/-- The loop takes a turn, as it does while there is something left to write. -/
def Turn (f g : Filling) : Prop :=
  f.written < f.dest.length ∧ f.turn? = some g

/-- Writes the one byte that was asked for, if there is a place for it. -/
def probe? (f : Filling) : Option Filling := do
  let dest ← Bytes.overwrite? f.dest 0 1 [filler]
  return { f with dest, log := f.log ++ [.probe] }

end Filling

/-- What a request that is answered into `dest` can end with. -/
inductive Fills (s : Keystream) (dest : Bytes) (f : Filling) : Prop where
  | one (single : dest.length = 1) (probed : Filling.probe? { stream := s, dest } = some f)
  | loop (several : dest.length ≠ 1) (turns : ReflTransGen Filling.Turn { stream := s, dest } f)
    (done : ¬ f.written < f.dest.length)

/-! ## Notes -/

theorem positions_concat (log : List Act) (act : Act) :
    positions (log ++ [act]) = positions log ++ act.positions := by
  unfold positions
  rw [List.flatMap_append, List.flatMap_singleton]

theorem hashes_hash (log : List Act) : hashes (log ++ [.hash]) = hashes log + 1 := by
  simp [hashes]

theorem hashes_copy (log : List Act) (target source length : Nat) :
    hashes (log ++ [.copy target source length]) = hashes log := by
  simp [hashes]

namespace NoneEarly

variable {s : Keystream} {n : Nat} {log : List Act}

theorem nil : NoneEarly s n [] :=
  fun _ h => absurd h.length_le (by simp)

theorem concat_hash (h : NoneEarly s n log)
    (spent : (positions log).length = s.left + blockLength * hashes log)
    (more : (positions log).length < n) : NoneEarly s n (log ++ [.hash]) := by
  intro before hbefore
  rcases List.prefix_concat_iff.mp hbefore with heq | hbefore
  · obtain rfl := List.append_cancel_right heq
    exact ⟨spent, more⟩
  · exact h before hbefore

theorem concat_other (h : NoneEarly s n log) {act : Act} (other : act ≠ .hash) :
    NoneEarly s n (log ++ [act]) := by
  intro before hbefore
  rcases List.prefix_concat_iff.mp hbefore with heq | hbefore
  · obtain ⟨-, heq⟩ := List.append_inj' heq rfl
    exact absurd (List.singleton_inj.mp heq).symm other
  · exact h before hbefore

end NoneEarly

/-! ## One turn -/

/-- The number of steps may as well be counted from the end. -/
theorem steps_step (n : Nat) (s : Keystream) : steps n s.step = (steps n s).step := by
  induction n generalizing s with
  | zero => rfl
  | succ n ih => rw [steps, steps, ih]

theorem offset_step (s : Keystream) : s.step.offset = 0 :=
  rfl

theorem length_block_step (s : Keystream) : s.step.block.length = blockLength := by
  unfold step
  rw [List.length_drop, Digest.length_sha512]
  rfl

theorem length_block_steps {s : Keystream} (h : s.block.length = blockLength) (n : Nat) :
    (steps n s).block.length = blockLength := by
  induction n generalizing s with
  | zero => exact h
  | succ n ih =>
    rw [steps]
    exact ih (length_block_step s)

theorem whole_step (s : Keystream) : s.step.Whole :=
  ⟨length_block_step s, by rw [offset_step]; exact Nat.zero_le _⟩

namespace Filling

/-- How many bytes are copied next. -/
def portion (f : Filling) : Nat :=
  min f.stream.left (f.dest.length - f.written)

/-- The bytes that are copied next. -/
def piece (f : Filling) : Bytes :=
  (f.stream.block.drop f.stream.offset).take f.portion

/-- The request after the next bytes have been copied. -/
def copied (f : Filling) : Filling where
  stream := { f.stream with offset := f.stream.offset + f.portion }
  dest := f.dest.take f.written ++ f.piece ++ f.dest.drop (f.written + f.portion)
  written := f.written + f.portion
  log := f.log ++ [.copy f.written f.stream.offset f.portion]

variable {f : Filling}

theorem source_le (whole : f.stream.Whole) : f.stream.offset + f.portion ≤ blockLength := by
  have hoffset := whole.offset
  have hportion : f.portion ≤ blockLength - f.stream.offset := Nat.min_le_left _ _
  omega

theorem target_le (room : f.written ≤ f.dest.length) :
    f.written + f.portion ≤ f.dest.length := by
  have hportion : f.portion ≤ f.dest.length - f.written := Nat.min_le_right _ _
  omega

theorem length_piece (whole : f.stream.Whole) : f.piece.length = f.portion := by
  have hsource := source_le whole
  unfold piece
  rw [List.length_take, List.length_drop, whole.block]
  omega

theorem length_copied (whole : f.stream.Whole) (room : f.written ≤ f.dest.length) :
    f.copied.dest.length = f.dest.length := by
  have htarget := target_le room
  show (f.dest.take f.written ++ f.piece ++ f.dest.drop (f.written + f.portion)).length = _
  rw [List.length_append, List.length_append, List.length_take, List.length_drop,
    length_piece whole]
  omega

theorem take_copied (whole : f.stream.Whole) (room : f.written ≤ f.dest.length) :
    f.copied.dest.take f.copied.written = f.dest.take f.written ++ f.piece := by
  refine List.take_left' ?_
  rw [List.length_append, List.length_take, length_piece whole, Nat.min_eq_left room]
  rfl

/-- What is copied from a whole block is within bounds. -/
theorem copy?_eq (whole : f.stream.Whole) (room : f.written ≤ f.dest.length) :
    f.copy? = some f.copied := by
  have hportion : min (blockLength - f.stream.offset) (f.dest.length - f.written) = f.portion := rfl
  have hsource : f.stream.offset + f.portion ≤ f.stream.block.length := by
    rw [whole.block]
    exact source_le whole
  have hpiece : (f.stream.block.drop f.stream.offset).take f.portion = f.piece := rfl
  unfold copy?
  simp only [Nat.psub_eq_sub whole.offset, Nat.psub_eq_sub room, Option.bind_eq_bind,
    Option.bind_some, hportion, Bytes.slice?_add hsource, hpiece,
    Bytes.overwrite?_add (target_le room) (length_piece whole)]
  rfl

-- A block that is too short, or used up beyond its end, is no block to copy from.
example : copy? { stream := ⟨[], [7], 0⟩, dest := [0, 0] } = none ∧
    copy? { stream := ⟨[], [7], 33⟩, dest := [0] } = none := ⟨rfl, rfl⟩

theorem renewed_stream (f : Filling) : f.renewed.stream =
    if f.stream.offset = blockLength then f.stream.step else f.stream := by
  unfold renewed
  split <;> rfl

theorem renewed_written (f : Filling) : f.renewed.written = f.written := by
  unfold renewed
  split <;> rfl

/-- There is something left of the block that the next bytes come from. -/
theorem left_renewed (whole : f.stream.Whole) : 0 < f.renewed.stream.left := by
  have hoffset := whole.offset
  rw [renewed_stream, left]
  split
  · rw [offset_step]
    decide
  · omega

end Filling

/-! ## Drawing in pieces -/

/-- A block that is used up may as well be replaced beforehand. -/
theorem draw_step {s : Keystream} {pieces need : Nat} (spent : s.offset = blockLength)
    (hneed : need ≠ 0) (h : need ≤ pieces) : draw pieces need s = draw pieces need s.step := by
  obtain ⟨pieces, rfl⟩ : ∃ p, pieces = p + 1 := ⟨pieces - 1, by omega⟩
  have fresh : ¬ s.step.offset = blockLength := by
    rw [offset_step]
    decide
  rw [draw, draw, if_neg hneed, if_neg hneed]
  dsimp only
  rw [if_pos spent, if_neg fresh]

/-- A piece of the block, and the rest from there. -/
theorem draw_portion {s : Keystream} {need : Nat} (pieces : Nat) (hleft : 0 < s.left)
    (hneed : need ≠ 0) : draw (pieces + 1) need s =
      let k := min s.left need
      let rest := draw pieces (need - k) { s with offset := s.offset + k }
      ((s.block.drop s.offset).take k ++ rest.1, rest.2) := by
  have unspent : ¬ s.offset = blockLength := by
    unfold left at hleft
    omega
  rw [draw, if_neg hneed]
  dsimp only
  rw [if_neg unspent]
  rfl

/-! ## The whole loop -/

/-- Where a request stands that is answered into `dest` from `s`. -/
structure OnCourse (s : Keystream) (dest : Bytes) (f : Filling) : Prop where
  whole : f.stream.Whole
  length : f.dest.length = dest.length
  room : f.written ≤ dest.length
  /-- The positions up to here have been written, each of them once. -/
  once : positions f.log = List.range f.written
  inRange : ∀ act ∈ f.log, act.InRange dest.length
  /-- The stream has taken the steps that were noted, and nothing else has happened to it but that
  some of the block was used up. -/
  moved : f.stream = { steps (hashes f.log) s with offset := f.stream.offset }
  /-- What was written and what is left of the block came from what was left at first and from the
  blocks that were started. -/
  supply : f.written + f.stream.left = s.left + blockLength * hashes f.log
  noneEarly : NoneEarly s dest.length f.log
  /-- What was written and what is drawn from here on make up the answer. -/
  answer : ∃ pieces, dest.length - f.written ≤ pieces ∧
    draw dest.length dest.length s =
      (f.dest.take f.written ++ (draw pieces (dest.length - f.written) f.stream).1,
        (draw pieces (dest.length - f.written) f.stream).2)

/-- Where it stands before a turn of the loop: something of the last block has been used. -/
structure BeforeTurn (s : Keystream) (dest : Bytes) (f : Filling) : Prop
    extends OnCourse s dest f where
  used : hashes f.log = 0 ∨ f.stream.left < blockLength

namespace OnCourse

variable {s : Keystream} {dest : Bytes} {f : Filling}

/-- A new block is started, if it has to be, when there is something to write. -/
theorem renewed (h : OnCourse s dest f) (more : f.written < dest.length) :
    OnCourse s dest f.renewed := by
  unfold Filling.renewed
  split
  case isFalse => exact h
  case isTrue spent =>
    -- nothing is left, so by `supply` the blocks so far have all been written
    have hleft : f.stream.left = 0 := by rw [left, spent, Nat.sub_self]
    have hsupply := h.supply
    have hwritten : (positions f.log).length = f.written := by rw [h.once, List.length_range]
    exact {
      whole := whole_step _
      length := h.length
      room := h.room
      once := by rw [positions_concat, h.once]; exact List.append_nil _
      inRange := fun act hact => by
        rcases List.mem_append.mp hact with hact | hact
        · exact h.inRange act hact
        · rw [List.mem_singleton.mp hact]
          trivial
      moved := by
        dsimp only
        rw [hashes_hash, steps, steps_step]
        conv => lhs; rw [h.moved]
        rfl
      supply := by
        have : f.stream.step.left = blockLength := rfl
        dsimp only
        rw [this, hashes_hash, Nat.mul_succ]
        omega
      noneEarly := h.noneEarly.concat_hash (by omega) (by omega)
      answer := by
        obtain ⟨pieces, hpieces, hanswer⟩ := h.answer
        refine ⟨pieces, hpieces, ?_⟩
        rw [hanswer, draw_step spent (by omega) hpieces] }

/-- What the block has left, or as much of it as there is room for, is copied. -/
theorem copied (h : OnCourse s dest f) (more : f.written < dest.length)
    (hleft : 0 < f.stream.left) : BeforeTurn s dest f.copied := by
  have hlength := h.length
  have room : f.written ≤ f.dest.length := by
    rw [h.length]
    exact h.room
  have hsource := Filling.source_le h.whole
  have htarget := Filling.target_le room
  have hportion : f.portion = min f.stream.left (f.dest.length - f.written) := rfl
  have hwritten : f.copied.written = f.written + f.portion := rfl
  have hcopied : f.copied.stream.left = f.stream.left - f.portion := (Nat.sub_sub _ _ _).symm
  have hhashes : hashes f.copied.log = hashes f.log := hashes_copy _ _ _ _
  exact {
    whole := ⟨h.whole.block, hsource⟩
    length := (Filling.length_copied h.whole room).trans h.length
    room := by rw [← h.length]; exact htarget
    once := by
      have hpositions : positions f.copied.log =
          positions f.log ++ List.range' f.written f.portion := positions_concat _ _
      rw [hpositions, h.once, hwritten, List.range_eq_range', List.range_eq_range',
        ← List.range'_append_1, Nat.zero_add]
    inRange := fun act hact => by
      rcases List.mem_append.mp hact with hact | hact
      · exact h.inRange act hact
      · rw [List.mem_singleton.mp hact]
        exact ⟨by omega, by omega, hsource⟩
    moved := by
      rw [hhashes]
      conv => lhs; rw [Filling.copied, h.moved]
      rfl
    supply := by
      have hsupply := h.supply
      rw [hcopied, hhashes, hwritten]
      omega
    noneEarly := h.noneEarly.concat_other Act.noConfusion
    answer := by
      obtain ⟨pieces, hpieces, hanswer⟩ := h.answer
      obtain ⟨pieces, rfl⟩ : ∃ p, pieces = p + 1 := ⟨pieces - 1, by omega⟩
      have hneed : dest.length - f.written ≠ 0 := by omega
      have hrest : dest.length - f.copied.written = dest.length - f.written - f.portion :=
        (Nat.sub_sub _ _ _).symm
      refine ⟨pieces, by omega, ?_⟩
      rw [hanswer, draw_portion pieces hleft hneed, Filling.take_copied h.whole room, hrest,
        List.append_assoc, ← h.length]
      rfl
    used := by
      -- a new block would have been left whole, but for this turn
      right
      have hle : f.stream.left ≤ blockLength := Nat.sub_le _ _
      omega }

end OnCourse

namespace BeforeTurn

variable {s : Keystream} {dest : Bytes} {f g : Filling}

theorem start (whole : s.Whole) (dest : Bytes) : BeforeTurn s dest { stream := s, dest } where
  whole := whole
  length := rfl
  room := Nat.zero_le _
  once := rfl
  inRange := fun _ h => by cases h
  moved := rfl
  supply := Nat.zero_add _
  noneEarly := .nil
  answer := ⟨dest.length, Nat.le_refl _, rfl⟩
  used := .inl rfl

/-- **While there is something left to write, a turn stays in bounds and writes some of it.** -/
theorem exists_turn (h : BeforeTurn s dest f) (more : f.written < dest.length) :
    ∃ g, f.turn? = some g ∧ BeforeTurn s dest g ∧ f.written < g.written := by
  have renewed := h.renewed more
  have hleft := Filling.left_renewed h.whole
  have hdest : f.renewed.dest.length = dest.length := renewed.length
  have hwritten := f.renewed_written
  have hportion : f.renewed.portion =
    min f.renewed.stream.left (f.renewed.dest.length - f.renewed.written) := rfl
  refine ⟨f.renewed.copied, Filling.copy?_eq renewed.whole (by omega),
    renewed.copied (by omega) hleft, ?_⟩
  show f.written < f.renewed.written + f.renewed.portion
  omega

theorem turn (h : BeforeTurn s dest f) (hturn : Filling.Turn f g) : BeforeTurn s dest g := by
  obtain ⟨more, hg⟩ := hturn
  rw [h.length] at more
  obtain ⟨g', hg', after, -⟩ := h.exists_turn more
  obtain rfl : g' = g := Option.some.inj (hg'.symm.trans hg)
  exact after

theorem turns (h : BeforeTurn s dest f) (hturns : ReflTransGen Filling.Turn f g) :
    BeforeTurn s dest g := by
  induction hturns with
  | refl => exact h
  | tail _ hturn ih => exact ih.turn hturn

/-- **The loop comes to its end.** What is left to write gets less with every turn. -/
theorem exists_end (h : BeforeTurn s dest f) :
    ∃ g, ReflTransGen Filling.Turn f g ∧ ¬ g.written < g.dest.length := by
  induction hn : dest.length - f.written using Nat.strong_induction_on generalizing f with
  | _ n ih =>
    by_cases more : f.written < f.dest.length
    · obtain ⟨g, hg, after, further⟩ := h.exists_turn (h.length ▸ more)
      have := after.room
      obtain ⟨last, turns, done⟩ := ih (dest.length - g.written) (by omega) after rfl
      exact ⟨last, .head ⟨more, hg⟩ turns, done⟩
    · exact ⟨f, .refl, more⟩

/-- As many blocks have been started as it took to write so much. -/
theorem hashes_eq (h : BeforeTurn s dest f) :
    hashes f.log = (f.written - s.left) ⌈/⌉ blockLength := by
  -- `supply` gives the number up to less than a block, and `used` rules out one too many
  have hsupply := h.supply
  have hused := h.used
  have hleft : f.stream.left ≤ blockLength := Nat.sub_le _ _
  have hlen : blockLength = 32 := rfl
  rw [Nat.ceilDiv_eq_add_pred_div]
  rw [hlen] at hsupply hused hleft ⊢
  omega

end BeforeTurn

/-! ## The answer -/

/-- What a request comes to that is answered into `dest` from `s`. -/
structure Filled (s : Keystream) (dest : Bytes) (f : Filling) : Prop where
  /-- The destination and the stream are the answer to the request. -/
  answer : s.fill dest.length = (f.dest, f.stream)
  /-- Every position was written once, -/
  once : positions f.log = List.range dest.length
  /-- and all that was written and copied was in range. -/
  inRange : ∀ act ∈ f.log, act.InRange dest.length
  /-- The stream has taken the steps that were noted, -/
  moved : f.stream = { steps (hashes f.log) s with offset := f.stream.offset }
  /-- and these are as many as there are blocks in what was asked for beyond what was left. -/
  fewest : hashes f.log =
    if dest.length = 1 then 0 else (dest.length - s.left) ⌈/⌉ blockLength
  noneEarly : NoneEarly s dest.length f.log
  whole : f.stream.Whole

section

variable {s : Keystream} {dest : Bytes} {f : Filling}

/-- A request for one byte. -/
theorem filled_one (whole : s.Whole) (single : dest.length = 1)
    (probed : Filling.probe? { stream := s, dest } = some f) : Filled s dest f := by
  obtain ⟨b, rfl⟩ := List.length_eq_one_iff.mp single
  obtain rfl : { stream := s, dest := [filler], log := [.probe] } = f := Option.some.inj probed
  exact {
    answer := rfl
    once := rfl
    inRange := fun act hact => by
      rw [List.mem_singleton.mp hact]
      exact Nat.one_pos
    moved := rfl
    fewest := rfl
    noneEarly := NoneEarly.nil.concat_other Act.noConfusion
    whole }

/-- The end of the loop. -/
theorem filled_loop (several : dest.length ≠ 1) (h : BeforeTurn s dest f)
    (done : ¬ f.written < f.dest.length) : Filled s dest f := by
  have hlength := h.length
  have hroom := h.room
  have hwritten : f.written = dest.length := by omega
  exact {
    answer := by
      obtain ⟨pieces, -, hanswer⟩ := h.answer
      have nothing : draw pieces 0 f.stream = ([], f.stream) := by cases pieces <;> rfl
      rw [fill, if_neg several, hanswer, hwritten, Nat.sub_self, nothing, List.append_nil,
        List.take_of_length_le (Nat.le_of_eq hlength)]
    once := hwritten ▸ h.once
    inRange := h.inRange
    moved := h.moved
    fewest := by rw [if_neg several, h.hashes_eq, hwritten]
    noneEarly := h.noneEarly
    whole := h.whole }

theorem filled (whole : s.Whole) (h : Fills s dest f) : Filled s dest f := by
  cases h with
  | one single probed => exact filled_one whole single probed
  | loop several turns done =>
    exact filled_loop several ((BeforeTurn.start whole dest).turns turns) done

/-- **Every request is answered.** -/
theorem exists_fills (whole : s.Whole) (dest : Bytes) : ∃ f, Fills s dest f := by
  by_cases single : dest.length = 1
  · obtain ⟨b, rfl⟩ := List.length_eq_one_iff.mp single
    exact ⟨_, .one rfl rfl⟩
  · obtain ⟨f, turns, done⟩ := (BeforeTurn.start whole dest).exists_end
    exact ⟨f, .loop single turns done⟩

end

/-! ## All requests -/

namespace Whole

variable {s : Keystream}

theorem ofSeed (seed : Bytes) : (Keystream.ofSeed seed).Whole where
  block := by
    unfold Keystream.ofSeed
    dsimp only
    rw [length_block_steps List.length_replicate]
  offset := Nat.le_refl _

theorem fill (h : s.Whole) (n : Nat) : (s.fill n).2.Whole := by
  obtain ⟨f, hf⟩ := exists_fills h (List.replicate n 0)
  have hfilled := filled h hf
  have hanswer := hfilled.answer
  rw [List.length_replicate] at hanswer
  rw [hanswer]
  exact hfilled.whole

theorem answer (h : s.Whole) (requests : List Request) : (s.answer requests).2.Whole := by
  induction requests generalizing s with
  | nil => exact h
  | cons r rest ih => exact ih (h.fill r.length)

end Whole

/-- **Requests are answered within bounds and from no more blocks than it takes.** -/
theorem fill_in_bounds (seed : Bytes) (requests : List Request) :
    let s := ((ofSeed seed).answer requests).2
    s.offset ≤ blockLength ∧ ∀ dest : Bytes,
      (∀ f, ReflTransGen Filling.Turn { stream := s, dest } f →
        f.stream.offset ≤ blockLength ∧
        hashes f.log = (f.written - s.left) ⌈/⌉ blockLength ∧
        (f.written < dest.length → ∃ g, f.turn? = some g ∧ f.written < g.written)) ∧
      (∃ f, Fills s dest f) ∧ ∀ f, Fills s dest f → Filled s dest f := by
  intro s
  have whole : s.Whole := (Whole.ofSeed seed).answer requests
  refine ⟨whole.offset, fun dest => ⟨fun f turns => ?_, exists_fills whole dest,
    fun f => filled whole⟩⟩
  have h := (BeforeTurn.start whole dest).turns turns
  refine ⟨h.whole.offset, h.hashes_eq, fun more => ?_⟩
  obtain ⟨g, hg, -, further⟩ := h.exists_turn more
  exact ⟨g, hg, further⟩

end HostKey.Keystream

end ShellGateway
