import Mathlib.Data.List.Induction
import ShellGateway.Files.FileSystem

/-!
# What writes leave in a file

Writes at positions of the writer's choice may overlap, and may leave gaps. Byte by
byte, a file that was empty holds what the last write to reach a place put there, and
zero where none did; it ends where the farthest write ends. `laid` says so, without a
word on the order in which bytes are moved. `overlay`, which is how the file system
lays one write over what is there, computes it write by write (`laid_concat`); for
pieces of a text that follow one another the outcome is the text (`laid_inARow`).
-/

namespace ShellGateway.Files

/-! ## Writes, place by place -/

/-- Bytes, and the position where the first of them goes. -/
abbrev Write := Nat × Bytes

/-- Where a write ends. One that has no bytes reaches no place. -/
def Write.stop (w : Write) : Nat :=
  if w.2.isEmpty then 0 else w.1 + w.2.length

/-- The byte that a write puts at a place. -/
def Write.byteAt? (w : Write) (i : Nat) : Option UInt8 :=
  if i < w.1 then none else w.2[i - w.1]?

/-- The byte that the last of the writes to reach a place puts there. -/
def lastByteAt? (writes : List Write) (i : Nat) : Option UInt8 :=
  writes.reverse.findSome? (Write.byteAt? · i)

/-- Where the farthest of the writes ends. -/
def farthest (writes : List Write) : Nat :=
  writes.foldl (fun n w => max n (Write.stop w)) 0

/-- What writes leave in a file that was empty. -/
def laid (writes : List Write) : Bytes :=
  (List.range (farthest writes)).map fun i => (lastByteAt? writes i).getD 0

/-- Pieces that are written one after the other, each where the one before ended. -/
def inARow (start : Nat) : List Bytes → List Write
  | [] => []
  | piece :: rest => (start, piece) :: inARow (start + piece.length) rest

@[simp]
theorem farthest_concat (writes : List Write) (w : Write) :
    farthest (writes ++ [w]) = max (farthest writes) (Write.stop w) := by
  simp [farthest]

@[simp]
theorem lastByteAt?_concat (writes : List Write) (w : Write) (i : Nat) :
    lastByteAt? (writes ++ [w]) i = (Write.byteAt? w i).or (lastByteAt? writes i) := by
  unfold lastByteAt?
  rw [List.reverse_append, List.reverse_singleton, List.singleton_append, List.findSome?_cons]
  cases Write.byteAt? w i <;> rfl

theorem Write.byteAt?_of_stop_le {w : Write} {i : Nat} (h : w.stop ≤ i) : w.byteAt? i = none := by
  unfold byteAt?
  by_cases before : i < w.1
  · rw [if_pos before]
  · rw [if_neg before, List.getElem?_eq_none_iff]
    unfold stop at h
    split at h
    case isTrue empty => simp [List.isEmpty_iff.mp empty]
    case isFalse => omega

/-- No write reaches a place behind all of them. -/
theorem lastByteAt?_of_farthest_le {writes : List Write} {i : Nat} (h : farthest writes ≤ i) :
    lastByteAt? writes i = none := by
  induction writes using List.reverseRecOn with
  | nil => rfl
  | append_singleton writes w ih =>
    rw [farthest_concat] at h
    rw [lastByteAt?_concat, Write.byteAt?_of_stop_le (by omega), ih (by omega)]
    rfl

theorem getElem?_laid (writes : List Write) (i : Nat) :
    (laid writes)[i]? =
      if i < farthest writes then some ((lastByteAt? writes i).getD 0) else none := by
  unfold laid
  by_cases before : i < farthest writes
  · rw [if_pos before, List.getElem?_map, List.getElem?_range before]
    rfl
  · rw [if_neg before, List.getElem?_eq_none]
    rw [List.length_map, List.length_range]
    omega

/-! ## Laying one write over another -/

namespace FileSystem

theorem getElem?_overlay (old : Bytes) (offset : Nat) (bytes : Bytes) (i : Nat) :
    (overlay old offset bytes)[i]? =
      if i < offset then (if i < old.length then old[i]? else some 0)
      else if i < offset + bytes.length then bytes[i - offset]?
      else old[i]? := by
  unfold overlay
  have front : (old.take offset ++ List.replicate (offset - old.length) 0).length = offset := by
    rw [List.length_append, List.length_take, List.length_replicate]
    omega
  rw [List.append_assoc, List.getElem?_append, front]
  by_cases before : i < offset
  · rw [if_pos before, if_pos before, List.getElem?_append, List.length_take]
    by_cases inside : i < old.length
    · rw [if_pos inside, if_pos (by omega), List.getElem?_take_of_lt before]
    · rw [if_neg inside, if_neg (by omega), List.getElem?_replicate, if_pos (by omega)]
  · rw [if_neg before, if_neg before, List.getElem?_append]
    by_cases among : i < offset + bytes.length
    · rw [if_pos among, if_pos (by omega)]
    · rw [if_neg among, if_neg (by omega), List.getElem?_drop]
      congr 1
      omega

/-- A write may be laid in two parts. -/
theorem overlay_overlay (c : Bytes) (offset : Nat) (a b : Bytes) :
    overlay (overlay c offset a) (offset + a.length) b = overlay c offset (a ++ b) := by
  have length (c : Bytes) (o : Nat) (d : Bytes) :
      (overlay c o d).length = max c.length (o + d.length) := by
    simp only [overlay, List.length_append, List.length_take, List.length_replicate,
      List.length_drop]
    omega
  refine List.ext_getElem? fun i => ?_
  simp only [getElem?_overlay, length, List.length_append, List.getElem?_append]
  grind

/-- Bytes that are laid at the end are added. -/
theorem overlay_length (c bytes : Bytes) : overlay c c.length bytes = c ++ bytes := by
  simp [overlay]

/-- From their place on, the bytes come first. -/
theorem drop_overlay (c : Bytes) (offset : Nat) (bytes : Bytes) :
    (overlay c offset bytes).drop offset = bytes ++ c.drop (offset + bytes.length) := by
  have front : (c.take offset ++ List.replicate (offset - c.length) 0).length = offset := by
    rw [List.length_append, List.length_take, List.length_replicate]
    omega
  unfold overlay
  rw [List.append_assoc]
  exact List.drop_left' front

end FileSystem

open FileSystem

/-- **One more write is laid over what the writes before it left.** -/
theorem laid_concat (writes : List Write) (offset : Nat) (data : Bytes) :
    laid (writes ++ [(offset, data)]) =
      if data.isEmpty then laid writes else overlay (laid writes) offset data := by
  have length : (laid writes).length = farthest writes := by simp [laid]
  refine List.ext_getElem? fun i => ?_
  rw [getElem?_laid, farthest_concat, lastByteAt?_concat]
  by_cases empty : data.isEmpty = true
  · have nothing : Write.byteAt? (offset, data) i = none := by
      simp [Write.byteAt?, List.isEmpty_iff.mp empty]
    rw [if_pos empty, getElem?_laid, nothing, Option.none_or, Write.stop, if_pos empty,
      Nat.max_zero]
  · rw [if_neg empty, getElem?_overlay, getElem?_laid, length, Write.stop, if_neg empty,
      Write.byteAt?]
    dsimp only
    have some : 0 < data.length := List.length_pos_iff.mpr (mt List.isEmpty_iff.mpr empty)
    by_cases before : i < offset
    · -- in front of the new write stands what was there, or a gap
      rw [if_pos before, if_pos before, if_pos (by omega), Option.none_or]
      split
      case isTrue => rfl
      case isFalse beyond => rw [lastByteAt?_of_farthest_le (by omega)]; rfl
    · rw [if_neg before, if_neg before]
      by_cases among : i < offset + data.length
      · rw [if_pos among, if_pos (by omega), List.getElem?_eq_getElem (by omega)]
        rfl
      · have same : i < max (farthest writes) (offset + data.length) ↔ i < farthest writes := by
          omega
        rw [if_neg among, List.getElem?_eq_none (by omega), Option.none_or, if_congr same rfl rfl]

theorem laid_append_inARow (writes : List Write) (pieces : List Bytes) :
    laid (writes ++ inARow (laid writes).length pieces) = laid writes ++ pieces.flatten := by
  induction pieces generalizing writes with
  | nil => simp [inARow]
  | cons piece rest ih =>
    have grown : laid (writes ++ [((laid writes).length, piece)]) = laid writes ++ piece := by
      rw [laid_concat, overlay_length]
      split
      case isTrue empty => rw [List.isEmpty_iff.mp empty, List.append_nil]
      case isFalse => rfl
    have later := ih (writes ++ [((laid writes).length, piece)])
    rw [grown, List.length_append, List.append_assoc] at later
    rw [inARow, List.flatten_cons, ← List.append_assoc, ← later]
    rfl

/-- **Pieces in a row leave what they are pieces of.** -/
theorem laid_inARow (pieces : List Bytes) : laid (inARow 0 pieces) = pieces.flatten :=
  laid_append_inARow [] pieces

/-! ## The contents of a node -/

namespace FileSystem

/-- The contents of a node that is a file. -/
def contents? (fs : FileSystem) (id : NodeId) : Option Bytes :=
  match fs.nodes.get? id with
  | some (.file contents _) => some contents
  | _ => none

/-- Who opens a file this way finds it empty, and writes where he says. -/
def Access.overwrites (a : Access) : Bool :=
  a.write && !a.append && a.truncate && (a.create || a.exclusive)

variable {fs fs' : FileSystem} {id : NodeId} {c : Bytes}

theorem contents?_eq_some :
    fs.contents? id = some c ↔ ∃ mode, fs.nodes.get? id = some (.file c mode) := by
  unfold contents?
  cases h : fs.nodes.get? id with
  | none => simp
  | some node => cases node <;> simp

@[simp]
theorem contents?_put (fs : FileSystem) (id : NodeId) (c : Bytes) (mode : Nat) :
    (fs.put id (.file c mode)).contents? id = some c := by
  simp [contents?, put]

/-- The names in directories are no concern of a file. -/
theorem contents?_bind (h : fs.contents? id = some c) (directory : NodeId) (name : String)
    (child : NodeId) : (fs.bind directory name child).contents? id = some c := by
  obtain ⟨mode, file⟩ := contents?_eq_some.mp h
  unfold bind
  split
  case h_1 entries _ found =>
    have other : id ≠ directory := by
      rintro rfl
      cases file.symm.trans found
    refine contents?_eq_some.mpr ⟨mode, ?_⟩
    rw [put, Dictionary.get?_insert, if_neg other, file]
  case h_2 => exact h

theorem contents?_create (fs : FileSystem) (directory : NodeId) (name : String) (c : Bytes)
    (mode : Nat) :
    (fs.create directory name (.file c mode)).1.contents?
      (fs.create directory name (.file c mode)).2 = some c :=
  contents?_bind (contents?_eq_some.mpr ⟨mode, Dictionary.get?_insert_self _ _ _⟩) _ _ _

/-- A place in a file is where it is said to be, if it is no later than places go. -/
theorem seek_of_contents? (h : fs.contents? id = some c) (offset : Nat) :
    fs.seek id offset = if positionLimit ≤ offset then .error .invalid else .ok offset := by
  obtain ⟨mode, file⟩ := contents?_eq_some.mp h
  unfold seek
  rw [file]

/-- A write to a file is laid over what is there if it ends within the limit, and is
refused otherwise. -/
theorem writeAt_of_contents? (h : fs.contents? id = some c) (offset : Nat) (bytes : Bytes) :
    (∃ fs', fs.writeAt id offset bytes = .ok fs' ∧
      fs'.contents? id = some (overlay c offset bytes)) ∨
    (sizeLimit ≤ offset + bytes.length ∧ fs.writeAt id offset bytes = .error .tooLarge) := by
  obtain ⟨mode, file⟩ := contents?_eq_some.mp h
  unfold writeAt
  rw [file]
  dsimp only
  by_cases far : positionLimit ≤ offset + bytes.length
  · have beyond : sizeLimit ≤ offset + bytes.length := Nat.le_trans (by decide) far
    exact .inr ⟨beyond, if_pos far⟩
  · rw [if_neg far]
    by_cases beyond : sizeLimit ≤ offset + bytes.length
    · exact .inr ⟨beyond, if_pos beyond⟩
    · rw [if_neg beyond]
      exact .inl ⟨_, rfl, contents?_put _ _ _ _⟩

/-- A machine hands over the bytes of a file: of those from a place on as many as are asked
for or fewer, but at least one in front of the end, and none at the end or behind it. -/
structure HandsOver (c : Bytes) (take : Nat → Nat → Except Fault Bytes) : Prop where
  inside : ∀ offset count, offset < c.length → 0 < count → offset + count < positionLimit →
    ∃ n, 0 < n ∧ n ≤ count ∧ offset + n ≤ c.length ∧
      take offset count = .ok ((c.drop offset).take n)
  behind : ∀ offset count, c.length ≤ offset → offset + count < positionLimit →
    take offset count = .ok []

theorem handsOver_readAt (h : fs.contents? id = some c) : HandsOver c (fs.readAt id) := by
  obtain ⟨mode, file⟩ := contents?_eq_some.mp h
  have all : ∀ offset count, offset + count < positionLimit →
      fs.readAt id offset count = .ok ((c.drop offset).take count) := by
    intro offset count near
    unfold readAt
    rw [if_neg (by omega), file]
  constructor
  case inside =>
    intro offset count before bytes near
    refine ⟨min count (c.length - offset), by omega, by omega, by omega, ?_⟩
    rw [all offset count near, List.take_eq_take_min, List.length_drop]
  case behind =>
    intro offset count past near
    rw [all offset count near, List.drop_eq_nil_of_le past, List.take_nil]

/-- So does a machine that hands over no more than some bytes at once. -/
theorem HandsOver.atMost {take : Nat → Nat → Except Fault Bytes} (hands : HandsOver c take)
    {k : Nat} (some : 0 < k) : HandsOver c fun offset count => take offset (min count k) := by
  constructor
  case inside =>
    intro offset count before bytes near
    obtain ⟨n, pos, le, inside, took⟩ := hands.inside offset (min count k) before (by omega)
      (by omega)
    exact ⟨n, pos, by omega, inside, took⟩
  case behind =>
    intro offset count past near
    exact hands.behind offset (min count k) past (by omega)

variable {a : Access} {at' : Trail} {path : String}

/-- What is there under a name, and is no link, is opened as it is. -/
theorem openCreating_of_child {links left : Nat} {parent : Trail} {name : String}
    (walked : fs.walkToParent links at' path = .ok (parent, left))
    (last : (Path.splitLast path).2 = .name name false)
    (child : fs.child parent.node name = .ok id) (plain : fs.linkTarget? id = none)
    (any : a.exclusive = false) : fs.openCreating a links at' path = fs.openNode a id := by
  unfold openCreating
  split
  case h_1 error => cases walked.symm.trans error
  case h_2 found =>
    cases walked.symm.trans found
    rw [last]
    simp only [child, any, plain]
    rfl

theorem contents?_openNode {id' : NodeId} (cuts : (a.truncate && a.writes) = true)
    (opened : fs.openNode a id = .ok (fs', id')) (file : fs'.contents? id' = some c) : c = [] := by
  have writes : a.writes = true := (Bool.and_eq_true_iff.mp cuts).2
  unfold openNode at opened
  split at opened
  case h_1 =>
    rw [writes] at opened
    cases opened
  case h_2 =>
    rw [if_pos cuts] at opened
    cases opened
    rw [contents?_put] at file
    exact (Option.some.inj file).symm
  case h_3 => cases opened
  case h_4 found =>
    cases opened
    obtain ⟨mode, there⟩ := contents?_eq_some.mp file
    cases found.symm.trans there
  case h_5 => cases opened

theorem contents?_openCreating {links : Nat} (cuts : (a.truncate && a.writes) = true)
    (opened : fs.openCreating a links at' path = .ok (fs', id))
    (file : fs'.contents? id = some c) : c = [] := by
  fun_induction openCreating fs a links at' path
  -- made at the end of the path
  case case3 =>
    cases opened
    exact Option.some.inj (file.symm.trans (contents?_create ..))
  -- there, and no link
  case case6 => exact contents?_openNode cuts opened file
  -- a link
  case case8 ih => exact ih opened
  all_goals cases opened

/-- **A file that is opened for overwriting is empty.** -/
theorem contents?_openFile (overwrites : a.overwrites = true)
    (opened : fs.openFile at' a path = .ok (fs', id)) (file : fs'.contents? id = some c) :
    c = [] := by
  simp only [Access.overwrites, Bool.and_eq_true] at overwrites
  obtain ⟨⟨⟨write, -⟩, truncate⟩, creates⟩ := overwrites
  have cuts : (a.truncate && a.writes) = true := by
    rw [truncate, Access.writes, write]
    rfl
  unfold openFile at opened
  rw [if_pos creates] at opened
  by_cases bad : (holdsNul path || a.contradictory) = true
  · rw [if_pos bad] at opened
    cases opened
  · rw [if_neg bad] at opened
    exact contents?_openCreating cuts opened file

end FileSystem

end ShellGateway.Files
