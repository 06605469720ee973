import ShellGateway.Programs.Program
import ShellGateway.Proofs.Text.Utf8

/-!
# A program's variables

A dictionary is listed without repetition as long as each of its keys stands in it once
(`Dictionary.keys`), which insertion keeps. The list of a program's variables is then in the
strict order of their names' bytes, and holds what the dictionary does. On a terminal one
variable more is set, and none else is touched.
-/

namespace ShellGateway

namespace Dictionary

variable {κ ν : Type} [DecidableEq κ] {d : Dictionary κ ν} {k : κ} {v : ν}

theorem nodup_keys_insert (once : d.keys.Nodup) (k : κ) (v : ν) : (d.insert k v).keys.Nodup := by
  unfold keys insert erase at *
  rw [List.map_cons, List.nodup_cons]
  constructor
  · intro h
    obtain ⟨e, he, rfl⟩ := List.mem_map.mp h
    have other := (List.mem_filter.mp he).2
    simp at other
  · exact once.sublist (List.filter_sublist.map _)

/-- The value of a key that stands in a dictionary once. -/
theorem get?_eq_some_iff (once : d.keys.Nodup) : d.get? k = some v ↔ (k, v) ∈ d.entries := by
  obtain ⟨entries⟩ := d
  unfold get? keys at *
  dsimp only at *
  induction entries with
  | nil => exact ⟨nofun, nofun⟩
  | cons e rest ih =>
    obtain ⟨k', v'⟩ := e
    rw [List.map_cons, List.nodup_cons] at once
    by_cases same : k' = k
    · subst same
      have absent : (k', v) ∉ rest := fun h => once.1 (List.mem_map.mpr ⟨_, h, rfl⟩)
      rw [List.find?_cons_of_pos (by simp), List.mem_cons]
      constructor
      · intro h
        exact .inl (Option.some.inj h ▸ rfl)
      · rintro (h | h)
        · exact congrArg some (Prod.mk.inj h).2.symm
        · exact absurd h absent
    · rw [List.find?_cons_of_neg (by simpa using same), ih once.2, List.mem_cons]
      constructor
      · exact .inr
      · rintro (h | h)
        · exact absurd (Prod.mk.inj h).1.symm same
        · exact h

/-- Entries put in one by one. -/
theorem nodup_keys_foldl_insert (once : d.keys.Nodup) (entries : List (κ × ν)) :
    (entries.foldl (fun d e => d.insert e.1 e.2) d).keys.Nodup := by
  induction entries generalizing d with
  | nil => exact once
  | cons e rest ih => exact ih (nodup_keys_insert once e.1 e.2)

/-- Whoever comes last gives a key its value, and here each key comes once. -/
theorem get?_foldl_insert (once : d.keys.Nodup) (k : κ) :
    (d.entries.foldl (fun d e => d.insert e.1 e.2) empty).get? k = d.get? k := by
  -- put into any other dictionary, the entries come before what is there
  have added : ∀ (entries : List (κ × ν)) (there : Dictionary κ ν),
      (entries.map (·.1)).Nodup →
      (entries.foldl (fun d e => d.insert e.1 e.2) there).get? k =
        ((⟨entries⟩ : Dictionary κ ν).get? k).or (there.get? k) := by
    intro entries
    induction entries with
    | nil => exact fun there _ => rfl
    | cons e rest ih =>
      intro there once
      rw [List.map_cons, List.nodup_cons] at once
      rw [List.foldl_cons, ih _ once.2, get?_insert]
      unfold get?
      by_cases same : k = e.1
      · subst same
        have absent : rest.find? (·.1 = e.1) = none := by
          rw [List.find?_eq_none]
          intro e' he' h
          exact once.1 (List.mem_map.mpr ⟨e', he', of_decide_eq_true h⟩)
        rw [absent, if_pos rfl, List.find?_cons_of_pos (by simp)]
        rfl
      · rw [if_neg same, List.find?_cons_of_neg (by simpa using Ne.symm same)]
  rw [added d.entries empty once, get?_empty, Option.or_none]

end Dictionary

namespace Programs

variable {d : Dictionary String String} {name value : String}

/-- The order of names is that of their bytes. -/
theorem nameLe_iff (a b : String) : nameLe a b = true ↔ Bytes.ofText a ≤ Bytes.ofText b := by
  unfold nameLe
  rw [Bool.not_eq_true', decide_eq_false_iff_not, ← Bytes.ofText_lt_iff]
  exact List.not_lt

/-- Each variable is listed with its value, -/
theorem mem_sorted (once : d.keys.Nodup) : (name, value) ∈ sorted d ↔ d.get? name = some value := by
  unfold sorted Dictionary.sortedBy
  rw [List.mem_mergeSort, Dictionary.get?_eq_some_iff once]

theorem nodup_sorted (once : d.keys.Nodup) : ((sorted d).map (·.1)).Nodup :=
  ((List.mergeSort_perm d.entries _).map _).nodup_iff.mpr once

/-- and each name stands before those that have greater bytes. -/
theorem sorted_ascending (once : d.keys.Nodup) :
    (sorted d).Pairwise fun a b => Bytes.ofText a.1 < Bytes.ofText b.1 := by
  have ordered : (sorted d).Pairwise fun a b => nameLe a.1 b.1 = true := by
    refine List.pairwise_mergeSort (fun a b c hab hbc => ?_) (fun a b => ?_) d.entries
    · rw [nameLe_iff] at *
      exact List.le_trans hab hbc
    · rw [Bool.or_eq_true, nameLe_iff, nameLe_iff]
      exact List.le_total _ _
  have distinct : (sorted d).Pairwise fun a b => a.1 ≠ b.1 :=
    List.pairwise_map.mp (nodup_sorted once)
  refine (ordered.and distinct).imp ?_
  rintro a b ⟨le, ne⟩
  rcases List.le_iff_lt_or_eq.mp ((nameLe_iff a.1 b.1).mp le) with less | same
  · exact less
  · exact absurd (Bytes.ofText_injective same) ne

/-- **On a terminal, one variable holds its type**, and all others are as they were. -/
theorem Program.mem_terminalVariables {p : Program} (once : (p.environment.map (·.1)).Nodup)
    (term : String) : (name, value) ∈ p.terminalVariables term ↔
      if name = termVariable then value = term else (name, value) ∈ p.environment := by
  have nodup := Dictionary.nodup_keys_foldl_insert (d := .empty) List.nodup_nil p.environment
  unfold terminalVariables
  rw [mem_sorted (Dictionary.nodup_keys_insert nodup _ _), Dictionary.get?_insert]
  by_cases same : name = termVariable
  · rw [if_pos same, if_pos same, Option.some_inj, eq_comm]
  · rw [if_neg same, if_neg same,
      ← Dictionary.get?_eq_some_iff (d := ⟨p.environment⟩) once,
      ← Dictionary.get?_foldl_insert (d := ⟨p.environment⟩) once]

end Programs

end ShellGateway
