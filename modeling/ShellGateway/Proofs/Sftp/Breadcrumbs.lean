import Mathlib.Data.List.Infix
import ShellGateway.Proofs.Text.Words
import ShellGateway.Sftp.Breadcrumb

/-!
# Trails of breadcrumbs

A directory's text is read as segments with slashes around them: `Segmented` is the grammar,
and each text has one reading (`segmented_iff`). The trail has a crumb for the root and one for
each segment, and the path of a crumb is made of the segments up to it, each with one slash in
front (`pathTo`).

Two facts carry the rest. A text falls apart at each of its slashes (`segments_append`), so the
path of a crumb is read as the segments that it was made of (`segments_pathTo`); and the trail
through the first segments is the first part of the trail (`below_take`). Together: the path of
a crumb leads along the same trail, as far as to that crumb.
-/

namespace ShellGateway.Sftp.Breadcrumb

/-- What stands between two slashes, if anything does. -/
structure IsSegment (name : List Char) : Prop where
  filled : name ≠ []
  noSlash : '/' ∉ name

/-- The texts that are made of these segments, with slashes between them, in front, at the end,
and as many as one likes. -/
inductive Segmented : List Char → List (List Char) → Prop where
  | nothing : Segmented [] []
  | slash {rest : List Char} {names : List (List Char)} (onward : Segmented rest names) :
      Segmented ('/' :: rest) names
  | last {name : List Char} (segment : IsSegment name) : Segmented name [name]
  | name {name rest : List Char} {names : List (List Char)} (segment : IsSegment name)
      (onward : Segmented rest names) : Segmented (name ++ '/' :: rest) (name :: names)

variable {dir name : List Char} {names : List (List Char)}

/-! ## Segments -/

/-- **A text falls apart at each slash.** -/
theorem segments_append (before after : List Char) :
    segments (before ++ '/' :: after) = segments before ++ segments after := by
  unfold segments
  simp only [Text.splitOn_eq, List.splitOn_eq_splitOnP]
  rw [List.splitOnP_append_cons _ _ (by simp), List.filter_append]

theorem segments_slash (rest : List Char) : segments ('/' :: rest) = segments rest :=
  segments_append [] rest

theorem IsSegment.segments (segment : IsSegment name) : segments name = [name] := by
  unfold Breadcrumb.segments
  rw [Text.splitOn_eq, List.splitOn_eq_splitOnP, List.splitOnP_eq_singleton]
  · simp [segment.filled]
  · rintro c mem
    rw [beq_eq_false_iff_ne]
    rintro rfl
    exact segment.noSlash mem

theorem isSegment_of_mem (h : name ∈ segments dir) : IsSegment name := by
  obtain ⟨mem, filled⟩ := List.mem_filter.mp h
  exact ⟨by simpa using filled, Text.not_mem_of_mem_splitOn mem⟩

/-- Every text can be read as its segments. -/
theorem segmented_segments (dir : List Char) : Segmented dir (segments dir) := by
  -- what follows the first slash is shorter than the whole
  induction h : dir.length using Nat.strong_induction_on generalizing dir with
  | _ length ih =>
    rcases Text.exists_cut '/' dir with noSlash | ⟨before, after, noSlash, rfl⟩
    · by_cases filled : dir = []
      · subst filled
        exact .nothing
      · have segment : IsSegment dir := ⟨filled, noSlash⟩
        rw [segment.segments]
        exact .last segment
    · have onward : Segmented after (segments after) := by
        refine ih after.length ?_ after rfl
        rw [← h, List.length_append, List.length_cons]
        omega
      rw [segments_append]
      by_cases filled : before = []
      · subst filled
        exact .slash onward
      · have segment : IsSegment before := ⟨filled, noSlash⟩
        rw [segment.segments]
        exact .name segment onward

/-- **Every text is read in one way.** -/
theorem segmented_iff : Segmented dir names ↔ segments dir = names := by
  refine ⟨fun h => ?_, fun h => h ▸ segmented_segments dir⟩
  induction h with
  | nothing => rfl
  | slash _ ih => rw [segments_slash, ih]
  | last segment => exact segment.segments
  | name segment _ ih => rw [segments_append, segment.segments, ih, List.singleton_append]

/-! ## The paths of crumbs -/

/-- The path from the root through some segments. -/
def pathTo (names : List (List Char)) : List Char :=
  names.flatMap ('/' :: ·)

theorem pathTo_concat (names : List (List Char)) (name : List Char) :
    pathTo (names ++ [name]) = pathTo names ++ '/' :: name := by
  simp [pathTo]

/-- **The path through segments is read as these segments.** -/
theorem segments_pathTo (proper : ∀ n ∈ names, IsSegment n) : segments (pathTo names) = names := by
  induction names using List.reverseRecOn with
  | nil => rfl
  | append_singleton names name ih =>
    have segment : IsSegment name := proper name (by simp)
    rw [pathTo_concat, segments_append, segment.segments,
      ih fun n mem => proper n (List.mem_append_left _ mem)]

/-- No slash ends the path. -/
theorem getLast?_pathTo (segment : IsSegment name) :
    (pathTo (names ++ [name])).getLast? ≠ some '/' := by
  have last : (pathTo (names ++ [name])).getLast? = some (name.getLast segment.filled) := by
    rw [pathTo_concat, List.getLast?_append, List.getLast?_cons,
      List.getLast?_eq_some_getLast segment.filled]
    rfl
  intro ends
  have slash : name.getLast segment.filled = '/' := Option.some.inj (last.symm.trans ends)
  exact segment.noSlash (slash ▸ List.getLast_mem _)

/-- Two slashes in a row are not within a segment, nor do they begin with its end. -/
theorem not_infix_append {rest : List Char} (noSlash : '/' ∉ name) (apart : ¬ ['/', '/'] <:+: rest) :
    ¬ ['/', '/'] <:+: name ++ rest := by
  induction name with
  | nil => exact apart
  | cons c name ih =>
    rw [List.mem_cons, not_or] at noSlash
    rw [List.cons_append, List.infix_cons_iff, List.cons_prefix_cons, not_or, not_and]
    exact ⟨fun same => absurd same noSlash.1, ih noSlash.2⟩

/-- Slashes stand alone in the path. -/
theorem not_infix_pathTo (proper : ∀ n ∈ names, IsSegment n) : ¬ ['/', '/'] <:+: pathTo names := by
  induction names with
  | nil => simp [pathTo]
  | cons name names ih =>
    have segment : IsSegment name := proper name List.mem_cons_self
    have onward := not_infix_append segment.noSlash
      (ih fun n mem => proper n (List.mem_cons_of_mem _ mem))
    obtain ⟨c, left, rfl⟩ := List.exists_cons_of_ne_nil segment.filled
    have other : '/' ≠ c := fun same => segment.noSlash (same ▸ List.mem_cons_self)
    show ¬ ['/', '/'] <:+: '/' :: (c :: left ++ pathTo names)
    rw [List.infix_cons_iff, not_or]
    exact ⟨by simp [other], onward⟩

/-! ## Trails -/

/-- The crumb of each segment has the path through the segments up to it. -/
theorem getElem?_below (above : List Char) (names : List (List Char)) (i : Nat) :
    (below above names)[i]? =
      names[i]?.map fun name => ⟨name, above ++ pathTo (names.take (i + 1))⟩ := by
  induction names generalizing above i with
  | nil => rfl
  | cons name rest ih =>
    cases i with
    | zero => simp [below, pathTo]
    | succ i =>
      rw [below, List.getElem?_cons_succ, List.getElem?_cons_succ, ih]
      simp [pathTo]

/-- The trail through the first segments is the first part of the trail. -/
theorem below_take (above : List Char) (names : List (List Char)) (i : Nat) :
    below above (names.take i) = (below above names).take i := by
  induction names generalizing above i with
  | nil => simp [below]
  | cons name rest ih =>
    cases i with
    | zero => rfl
    | succ i => rw [List.take_succ_cons, below, below, List.take_succ_cons, ih]

theorem map_name_below (above : List Char) (names : List (List Char)) :
    (below above names).map (·.name) = names := by
  induction names generalizing above with
  | nil => rfl
  | cons name rest ih => rw [below, List.map_cons, ih]

/-- The trail along a path that was made of segments. -/
theorem trail_pathTo (proper : ∀ n ∈ names, IsSegment n) :
    trail (pathTo names) = root :: below [] names := by
  rw [trail, segments_pathTo proper]

/-- The crumb of a segment. -/
theorem getElem?_trail (dir : List Char) (i : Nat) :
    (trail dir)[i + 1]? =
      (segments dir)[i]?.map fun name => ⟨name, pathTo ((segments dir).take (i + 1))⟩ := by
  rw [trail, List.getElem?_cons_succ, getElem?_below]
  rfl

/-- What a trail through these segments looks like. -/
structure LeadsThrough (names : List (List Char)) (crumbs : List Breadcrumb) : Prop where
  root : crumbs.head? = some ⟨['/'], ['/']⟩
  /-- There is one further crumb for each segment, named by it, in order. -/
  named : crumbs.tail.map (·.name) = names
  /-- A crumb's path goes on from that of the crumb before it; the root's adds nothing. -/
  path : ∀ i above crumb, crumbs[i]? = some above → crumbs[i + 1]? = some crumb →
    crumb.path = (if i = 0 then [] else above.path) ++ '/' :: crumb.name
  /-- No slash ends a path, and no two come together. -/
  clean : ∀ crumb ∈ crumbs.tail, crumb.path.getLast? ≠ some '/' ∧ ¬ ['/', '/'] <:+: crumb.path
  /-- The path of a crumb leads along the trail as far as to that crumb. -/
  again : ∀ i crumb, crumbs[i]? = some crumb → trail crumb.path = crumbs.take (i + 1)

theorem leadsThrough_trail (dir : List Char) : LeadsThrough (segments dir) (trail dir) := by
  have proper : ∀ i, ∀ n ∈ (segments dir).take i, IsSegment n :=
    fun i n mem => isSegment_of_mem (List.mem_of_mem_take mem)
  constructor
  case root => rfl
  case named => exact map_name_below [] (segments dir)
  case path =>
    intro i above crumb before here
    rw [getElem?_trail] at here
    obtain ⟨name, found, rfl⟩ := Option.map_eq_some_iff.mp here
    dsimp only
    rw [List.take_add_one, found, Option.toList_some, pathTo_concat]
    congr 1
    cases i with
    | zero => rfl
    | succ i =>
      rw [getElem?_trail] at before
      obtain ⟨name', -, rfl⟩ := Option.map_eq_some_iff.mp before
      rfl
  case clean =>
    intro crumb mem
    obtain ⟨i, here⟩ := List.mem_iff_getElem?.mp mem
    rw [List.getElem?_tail, getElem?_trail] at here
    obtain ⟨name, found, rfl⟩ := Option.map_eq_some_iff.mp here
    refine ⟨?_, not_infix_pathTo (proper _)⟩
    dsimp only
    rw [List.take_add_one, found, Option.toList_some]
    exact getLast?_pathTo (isSegment_of_mem (List.mem_of_getElem? found))
  case again =>
    intro i crumb here
    cases i with
    | zero =>
      obtain rfl := Option.some.inj here
      rfl
    | succ i =>
      rw [getElem?_trail] at here
      obtain ⟨name, found, rfl⟩ := Option.map_eq_some_iff.mp here
      rw [trail_pathTo (proper _), below_take]
      rfl

/-- **The trail to a directory** goes from the root through the segments of its text, each
crumb's path leads along the trail as far as to that crumb, and texts have the same trail if
they have the same segments, and only then. -/
theorem trail_prefixes (dir : List Char) :
    ∃ names, (∀ others, Segmented dir others ↔ others = names) ∧
      LeadsThrough names (trail dir) ∧
      ∀ dir', trail dir' = trail dir ↔ Segmented dir' names := by
  refine ⟨segments dir, fun others => ?_, leadsThrough_trail dir, fun dir' => ?_⟩
  · rw [segmented_iff, eq_comm]
  · rw [segmented_iff]
    constructor
    · intro same
      rw [← (leadsThrough_trail dir').named, same, (leadsThrough_trail dir).named]
    · intro same
      rw [trail, same, trail]

/-- Slashes in front, at the end and in a row make no crumbs. -/
example : (trail "//tmp///x/".toList).map (fun c => (String.ofList c.name, String.ofList c.path)) =
    [("/", "/"), ("tmp", "/tmp"), ("x", "/tmp/x")] := by
  decide +kernel

end ShellGateway.Sftp.Breadcrumb
