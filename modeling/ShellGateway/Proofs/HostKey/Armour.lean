import ShellGateway.HostKey.Pem
import ShellGateway.Proofs.Text.Base64
import ShellGateway.Proofs.Text.Words

/-!
# The armour around a key

A key's bytes are written in base 64 on lines of 64 letters. The lines are all full but the last,
and put together they are the letters again (`flatten_wrap`, `evenLines_wrap`), so the text of
bytes is read as these bytes (`decode?_encode`), whatever the first and the last line call them.
-/

namespace ShellGateway

/-! ## Lines -/

namespace Text

/-- A line that has been ended is the first line. -/
theorem splitOn_append_cons {sep : Char} {line : List Char} (solid : sep ∉ line)
    (rest : List Char) : splitOn sep (line ++ sep :: rest) = line :: splitOn sep rest := by
  induction line with
  | nil => exact if_pos rfl
  | cons c line ih =>
    obtain ⟨other, others⟩ := List.ne_and_not_mem_of_not_mem_cons solid
    rw [List.cons_append, splitOn, if_neg (Ne.symm other), ih others]

/-- A line within which no line ends, with either of the two marks for that. -/
def IsLine (line : List Char) : Prop :=
  '\n' ∉ line ∧ '\r' ∉ line

instance (line : List Char) : Decidable (IsLine line) :=
  inferInstanceAs (Decidable ('\n' ∉ line ∧ '\r' ∉ line))

theorem dropReturn_of_isLine {line : List Char} (solid : IsLine line) : dropReturn line = line := by
  obtain same | returned := dropReturn_cases line
  · exact same
  · refine absurd ?_ solid.2
    rw [returned]
    exact List.mem_append_right _ (List.mem_singleton_self _)

/-- **Lines that have been written are read.** -/
theorem lines_flatMap {ls : List (List Char)} (solid : ∀ l ∈ ls, IsLine l) :
    lines (ls.flatMap (· ++ ['\n'])) = ls := by
  have split : splitOn '\n' (ls.flatMap (· ++ ['\n'])) = ls ++ [[]] := by
    induction ls with
    | nil => rfl
    | cons l rest ih =>
      obtain ⟨first, others⟩ := List.forall_mem_cons.mp solid
      rw [List.flatMap_cons, List.append_assoc, List.singleton_append,
        splitOn_append_cons first.1, ih others]
      rfl
  have kept : ls.map dropReturn = ls :=
    (List.map_congr_left fun l hl => dropReturn_of_isLine (solid l hl)).trans (List.map_id' ls)
  rw [lines, split, List.reverse_append]
  show ls.reverse.reverse.map dropReturn = ls
  rw [List.reverse_reverse, kept]

end Text

namespace HostKey.Pem

open Text (IsLine)

/-- The letters that are cut into lines are all there. -/
theorem flatten_wrap {fuel : Nat} {s : List Char} (enough : s.length ≤ fuel) :
    (wrap fuel s).flatten = s := by
  induction fuel generalizing s with
  | zero =>
    rw [List.length_eq_zero_iff.mp (Nat.le_zero.mp enough)]
    rfl
  | succ fuel ih =>
    unfold wrap
    split
    · rename_i none
      rw [List.isEmpty_iff.mp none]
      rfl
    · rename_i some
      have nonempty : s.length ≠ 0 := fun none => some (by simpa using none)
      have fewer : (s.drop columns).length ≤ fuel := by
        rw [List.length_drop]
        unfold columns
        omega
      rw [List.flatten_cons, ih fewer, List.take_append_drop]

/-- The lines are all full but the last. -/
theorem evenLines_wrap (fuel : Nat) (s : List Char) : evenLines (wrap fuel s) = true := by
  induction fuel generalizing s with
  | zero => rfl
  | succ fuel ih =>
    unfold wrap
    split
    · rfl
    · rename_i some
      have nonempty : s.length ≠ 0 := fun none => some (by simpa using none)
      have even := ih (s.drop columns)
      cases later : wrap fuel (s.drop columns) with
      | nil =>
        have last : 0 < (s.take columns).length ∧ (s.take columns).length ≤ columns := by
          rw [List.length_take]
          unfold columns
          omega
        simpa [evenLines] using last
      | cons line rest =>
        rw [later] at even
        -- there is a line after this one, so this one is full
        have more : s.drop columns ≠ [] := by
          intro none
          rw [none] at later
          cases fuel <;> cases later
        have long : columns ≤ s.length :=
          Nat.le_of_not_le fun short => more (List.drop_eq_nil_of_le short)
        have full : (s.take columns).length = columns := by
          rw [List.length_take]
          exact Nat.min_eq_left long
        simpa [evenLines, full] using even

theorem mem_of_mem_wrap {fuel : Nat} {s line : List Char} (h : line ∈ wrap fuel s) :
    ∀ c ∈ line, c ∈ s := by
  induction fuel generalizing s with
  | zero => cases h
  | succ fuel ih =>
    unfold wrap at h
    split at h
    · cases h
    · intro c hc
      obtain rfl | later := List.mem_cons.mp h
      · exact List.mem_of_mem_take hc
      · exact List.mem_of_mem_drop (ih later c hc)

theorem isLine_of_mem_wrap {fuel : Nat} {bytes : Bytes} {line : List Char}
    (h : line ∈ wrap fuel (Base64.encode bytes)) : IsLine line := by
  have solid : ∀ c ∈ line, Text.isBlank c = false := fun c hc =>
    Base64.isBlank_of_mem_encode (mem_of_mem_wrap h c hc)
  constructor
  · intro h
    cases (solid _ h).symm.trans (show Text.isBlank '\n' = true by decide)
  · intro h
    cases (solid _ h).symm.trans (show Text.isBlank '\r' = true by decide)

theorem isLine_firstLine (label : Label) : IsLine (firstLine label) := by
  cases label <;> decide

theorem isLine_lastLine (label : Label) : IsLine (lastLine label) := by
  cases label <;> decide

/-- **The text of bytes is read as these bytes.** -/
theorem decode?_encode (label : Label) (bytes : Bytes) :
    decode? label (encode label bytes) = some bytes := by
  have read : Text.lines (encode label bytes) =
      firstLine label :: wrap (Base64.encode bytes).length (Base64.encode bytes) ++
        [lastLine label] := by
    refine Text.lines_flatMap fun line hl => ?_
    obtain first | last := List.mem_append.mp hl
    · obtain rfl | body := List.mem_cons.mp first
      · exact isLine_firstLine label
      · exact isLine_of_mem_wrap body
    · rw [List.mem_singleton.mp last]
      exact isLine_lastLine label
  rw [decode?, read, List.cons_append]
  dsimp only
  rw [List.reverse_append]
  simp only [List.reverse_singleton, List.singleton_append, List.reverse_reverse, evenLines_wrap,
    and_self, if_true, flatten_wrap (Nat.le_refl _), Base64.decode?_encode]

end HostKey.Pem

end ShellGateway
