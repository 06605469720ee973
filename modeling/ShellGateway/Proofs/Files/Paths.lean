import ShellGateway.Files.FileSystem
import ShellGateway.Proofs.Text.Words

/-!
# The components of paths

A path is looked up component by component, so two things about its text matter: which
components it has, and how it ends. Every component is a text without slashes, and a list of
such texts is read off the absolute path that is made of it (`components_absolute`). The last
component stands apart from those before it (`steps_eq`), for that is where creating,
removing and renaming differ from looking up.
-/

namespace ShellGateway.Files

namespace Path

open Text

variable {path name : String} {names : List String}

/-- A text that can stand between the slashes of a path. -/
structure IsComponent (name : String) : Prop where
  filled : name ≠ ""
  noSlash : '/' ∉ name.toList
  noNul : '\x00' ∉ name.toList

/-- A component that is the name of a file. -/
structure IsName (name : String) : Prop extends IsComponent name where
  notDot : name ≠ "."
  notDotDot : name ≠ ".."

theorem mem_components :
    name ∈ components path ↔ name ≠ "" ∧ name.toList ∈ splitOn '/' path.toList := by
  unfold components
  simp only [List.mem_map, List.mem_filter, Bool.not_eq_eq_eq_not, Bool.not_true,
    List.isEmpty_eq_false_iff]
  constructor
  · rintro ⟨piece, ⟨mem, filled⟩, rfl⟩
    rw [String.toList_ofList]
    exact ⟨by simpa using filled, mem⟩
  · rintro ⟨filled, mem⟩
    exact ⟨name.toList, ⟨mem, by simpa using filled⟩, String.ofList_toList⟩

theorem isComponent_dot : IsComponent "." := ⟨by decide, by decide, by decide⟩

/-- What is walked through for a path is made of components. -/
theorem isComponent_of_mem_steps (text : FileSystem.holdsNul path = false)
    (h : name ∈ steps path) : IsComponent name := by
  have component : name ∈ components path → IsComponent name := by
    intro h
    obtain ⟨filled, piece⟩ := mem_components.mp h
    refine ⟨filled, not_mem_of_mem_splitOn piece, fun nul => ?_⟩
    have : '\x00' ∈ path.toList := mem_of_mem_splitOn piece nul
    simp only [FileSystem.holdsNul, List.contains_eq_mem, decide_eq_false_iff_not] at text
    exact text this
  unfold steps at h
  split at h
  case isTrue =>
    rcases List.mem_append.mp h with h | h
    · exact component h
    · rw [List.mem_singleton.mp h]
      exact isComponent_dot
  case isFalse => exact component h

/-! ## Joined paths -/

theorem named_of_isAbsolute (absolute : isAbsolute path = true) : path ≠ "" ∧ path ≠ "." := by
  constructor
  all_goals
    rintro rfl
    revert absolute
    decide

theorem isAbsolute_append {front : String} (filled : front ≠ "") (rest : String) :
    isAbsolute (front ++ rest) = isAbsolute front := by
  obtain ⟨c, cs, text⟩ := List.exists_cons_of_ne_nil
    (show front.toList ≠ [] by simpa using filled)
  rw [isAbsolute, isAbsolute, String.toList_append, text]
  rfl

variable {directory : String}

/-- What a relative path is joined to decides where the whole starts. -/
theorem isAbsolute_join (filled : directory ≠ "") (relative : isAbsolute path = false) :
    isAbsolute (join directory path) = isAbsolute directory := by
  rw [join, relative, if_neg Bool.false_ne_true]
  split
  · exact isAbsolute_append filled _
  · rw [String.append_assoc]
    exact isAbsolute_append filled _

theorem join_empty (path : String) : join "" path = path := by
  unfold join
  split
  · rfl
  · exact String.empty_append

theorem length_join (directory : String) (relative : isAbsolute path = false) :
    directory.length + path.length ≤ (join directory path).length := by
  rw [join, relative, if_neg Bool.false_ne_true]
  split
  · rw [String.length_append]
  · rw [String.length_append, String.length_append]
    omega

/-! ## Absolute paths -/

theorem toList_absolute (names : List String) :
    (absolute names).toList = '/' :: ['/'].intercalate (names.map String.toList) := by
  simp [absolute, String.toList_append, String.toList_intercalate]

theorem isAbsolute_absolute (names : List String) : isAbsolute (absolute names) = true := by
  rw [isAbsolute, toList_absolute]
  rfl

/-- **An absolute path has the components that it was made of.** -/
theorem components_absolute (proper : ∀ name ∈ names, IsComponent name) :
    components (absolute names) = names := by
  have pieces : (splitOn '/' (['/'].intercalate (names.map String.toList))).filter (!·.isEmpty) =
      names.map String.toList := by
    by_cases none : names = []
    · rw [none]
      rfl
    · have apart : ∀ piece ∈ names.map String.toList, '/' ∉ piece := by
        intro piece h
        obtain ⟨name, mem, rfl⟩ := List.mem_map.mp h
        exact (proper name mem).noSlash
      rw [splitOn_eq, List.splitOn_intercalate _ apart (by simpa using none),
        List.filter_eq_self.mpr]
      intro piece h
      obtain ⟨name, mem, rfl⟩ := List.mem_map.mp h
      simpa using (proper name mem).filled
  rw [components, toList_absolute, splitOn, if_pos rfl, List.filter_cons_of_neg (by simp), pieces,
    List.map_map]
  simp

/-- No slash ends an absolute path of at least one component. -/
theorem endsInSlash_absolute (proper : IsComponent name) :
    endsInSlash (absolute (names ++ [name])) = false := by
  have last : (['/'].intercalate ((names ++ [name]).map String.toList)).getLast? =
      name.toList.getLast? := by
    induction names with
    | nil => simp
    | cons first rest ih =>
      obtain ⟨second, others, h⟩ := List.exists_cons_of_ne_nil
        (show (rest ++ [name]).map String.toList ≠ [] by simp)
      rw [List.cons_append, List.map_cons, h, List.intercalate_cons_cons, List.getLast?_append,
        ← h, ih, List.getLast?_eq_some_getLast (by simpa using proper.filled)]
      rfl
  rw [endsInSlash, toList_absolute, List.getLast?_cons, last, beq_eq_false_iff_ne]
  intro slash
  have filled : name.toList ≠ [] := by simpa using proper.filled
  rw [List.getLast?_eq_some_getLast filled, Option.getD_some, Option.some_inj] at slash
  exact proper.noSlash (slash ▸ List.getLast_mem filled)

/-- The root is walked to by asking for a directory. -/
theorem steps_root : steps (absolute []) = ["."] := by decide +kernel

theorem steps_absolute (proper : ∀ n ∈ names ++ [name], IsComponent n) :
    steps (absolute (names ++ [name])) = names ++ [name] := by
  rw [steps, endsInSlash_absolute (proper name (by simp)), components_absolute proper]
  rfl

theorem splitLast_absolute (proper : ∀ n ∈ names, IsComponent n) (last : IsName name) :
    splitLast (absolute (names ++ [name])) = (names, .name name false) := by
  have all : ∀ n ∈ names ++ [name], IsComponent n := by
    intro n h
    rcases List.mem_append.mp h with h | h
    · exact proper n h
    · rw [List.mem_singleton.mp h]
      exact last.toIsComponent
  rw [splitLast, components_absolute all, List.reverse_append, List.reverse_singleton,
    List.singleton_append, endsInSlash_absolute last.toIsComponent]
  dsimp only
  rw [if_neg last.notDot, if_neg last.notDotDot, List.reverse_reverse]

theorem holdsNul_absolute (proper : ∀ n ∈ names, IsComponent n) :
    FileSystem.holdsNul (absolute names) = false := by
  have clean : '\x00' ∉ ['/'].intercalate (names.map String.toList) := by
    induction names with
    | nil => simp
    | cons first rest ih =>
      have here := (proper first List.mem_cons_self).noNul
      have later := ih fun n h => proper n (List.mem_cons_of_mem _ h)
      cases rest with
      | nil => simpa using here
      | cons second others =>
        rw [List.map_cons, List.map_cons, List.intercalate_cons_cons]
        simp only [List.mem_append, not_or]
        exact ⟨⟨here, by decide⟩, later⟩
  rw [FileSystem.holdsNul, toList_absolute, List.contains_eq_mem, decide_eq_false_iff_not,
    List.mem_cons, not_or]
  exact ⟨by decide, clean⟩

/-- A path that is made of components is good if it is not too long. -/
theorem checkText_absolute (proper : ∀ n ∈ names, IsComponent n)
    (short : (absolute names).utf8ByteSize < lengthLimit) :
    FileSystem.checkText (absolute names) = .ok () := by
  have filled : (absolute names).isEmpty = false := by
    rw [← Bool.not_eq_true, String.isEmpty_iff, ← String.toList_inj, toList_absolute]
    exact List.cons_ne_nil _ _
  rw [FileSystem.checkText, holdsNul_absolute proper, filled]
  simp only [Bool.false_eq_true, if_false]
  rw [if_neg (by omega)]

/-! ## The last component -/

/-- What remains to be walked through when the directory of the last component has been
reached. -/
inductive Last.Leads : Last → List String → Prop where
  | name (name : String) (proper : name ≠ "." ∧ name ≠ "..") : Leads (.name name false) [name]
  | nameSlash (name : String) (proper : name ≠ "." ∧ name ≠ "..") :
      Leads (.name name true) [name, "."]
  | dot : Leads .dot ["."]
  | dotSlash : Leads .dot [".", "."]
  | dotDot : Leads .dotDot [".."]
  | dotDotSlash : Leads .dotDot ["..", "."]
  | root : Leads .root ["."]

theorem Last.Leads.exists_cons {last : Last} {final : List String} (h : last.Leads final) :
    ∃ first rest, final = first :: rest := by
  cases h <;> exact ⟨_, _, rfl⟩

/-- A path without components is made of slashes. -/
theorem eq_slash_of_components_eq_nil (none : components path = []) :
    ∀ c ∈ path.toList, c = '/' := by
  have nothing : ∀ s : List Char, (splitOn '/' s).filter (!·.isEmpty) = [] → ∀ c ∈ s, c = '/' := by
    intro s
    induction s with
    | nil => exact fun _ _ h => absurd h List.not_mem_nil
    | cons first rest ih =>
      intro h
      rw [splitOn] at h
      split at h
      case isTrue slash =>
        rw [List.filter_cons_of_neg (by simp)] at h
        exact List.forall_mem_cons.mpr ⟨slash, ih h⟩
      case isFalse =>
        split at h
        all_goals
          rw [List.filter_cons_of_pos (by simp)] at h
          cases h
  exact nothing _ (List.map_eq_nil_iff.mp none)

/-- **The steps of a path are those to the directory of its last component, and what remains.** -/
theorem steps_eq (filled : path ≠ "") :
    ∃ final, steps path = (splitLast path).1 ++ final ∧ (splitLast path).2.Leads final := by
  unfold splitLast steps
  rcases List.eq_nil_or_concat (components path) with none | ⟨before, last, h⟩
  · have slashes := eq_slash_of_components_eq_nil none
    have ends : endsInSlash path = true := by
      have some : path.toList ≠ [] := by simpa using filled
      rw [endsInSlash, List.getLast?_eq_some_getLast some,
        slashes _ (List.getLast_mem some)]
      rfl
    rw [none, ends]
    exact ⟨["."], rfl, .root⟩
  · rw [h, List.concat_eq_append, List.reverse_append]
    simp only [List.reverse_singleton, List.singleton_append]
    rw [List.reverse_reverse]
    by_cases slash : endsInSlash path = true
    · rw [if_pos slash, List.append_assoc]
      refine ⟨[last] ++ ["."], rfl, ?_⟩
      split
      case isTrue dot => exact dot ▸ .dotSlash
      case isFalse notDot =>
        split
        case isTrue dotDot => exact dotDot ▸ .dotDotSlash
        case isFalse notDotDot => exact slash ▸ .nameSlash last ⟨notDot, notDotDot⟩
    · rw [if_neg slash]
      refine ⟨[last], rfl, ?_⟩
      split
      case isTrue dot => exact dot ▸ .dot
      case isFalse notDot =>
        split
        case isTrue dotDot => exact dotDot ▸ .dotDot
        case isFalse notDotDot =>
          rw [Bool.not_eq_true] at slash
          exact slash ▸ .name last ⟨notDot, notDotDot⟩

/-- A path whose last component is no component at all is the root's. -/
theorem of_splitLast_root (filled : path ≠ "") (root : (splitLast path).2 = .root) :
    isAbsolute path = true ∧ steps path = ["."] := by
  obtain ⟨final, cut, leads⟩ := steps_eq filled
  have none : components path = [] := by
    rw [← List.reverse_eq_nil_iff]
    unfold splitLast at root
    split at root
    case h_1 none => exact none
    case h_2 =>
      dsimp only at root
      split at root
      · cases root
      · split at root <;> cases root
  have before : (splitLast path).1 = [] := by
    rw [splitLast, none]
    rfl
  rw [before, List.nil_append] at cut
  rw [root] at leads
  cases leads
  refine ⟨?_, cut⟩
  obtain ⟨first, rest, text⟩ := List.exists_cons_of_ne_nil
    (show path.toList ≠ [] by simpa using filled)
  rw [isAbsolute, text, List.head?_cons,
    eq_slash_of_components_eq_nil none first (text ▸ List.mem_cons_self)]
  rfl

end Path

end ShellGateway.Files
