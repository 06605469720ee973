import ShellGateway.Proofs.Files.Operations

/-!
# Removing what a path names

A path that does not end at the root, in `.` or in `..` names an entry of a directory
(`Names`), whatever is kept there. There are two ways to take an entry away, one for empty
directories (`rmdir_eq_ok_iff`) and one for all that is no directory (`unlink_eq_ok_iff`), and
both leave everything else as it is (`Unnamed`).

Who does not know what is there can look first (`remove`). Looking follows links and removing
does not. So that takes away files, devices, empty directories, and links to what exists and is
no directory, but no other links: `remove_eq_ok_iff`.
-/

namespace ShellGateway.Files.FileSystem

open ShellGateway.Files.Path

variable {fs fs' : FileSystem} {at' parent : Trail} {directory id : NodeId} {name path : String}
  {attributes : Attributes}

/-! ## Entries -/

/-- A path names an entry of the directory at the end of `parent`, under which a node is kept. Only
a directory is named with a slash at the end. -/
structure Names (fs : FileSystem) (at' : Trail) (path : String) (parent : Trail) (name : String)
    (id : NodeId) : Prop where
  place : ∃ slash, fs.resolveParent at' path = .ok (parent, .name name slash) ∧
    (slash = true → fs.isDirectory id = true)
  child : fs.child parent.node name = .ok id

/-- A path names one entry. -/
theorem Names.unique {parent' : Trail} {name' : String} {id' : NodeId}
    (names : fs.Names at' path parent name id) (names' : fs.Names at' path parent' name' id') :
    parent' = parent ∧ name' = name ∧ id' = id := by
  obtain ⟨⟨slash, found, -⟩, child⟩ := names
  obtain ⟨⟨slash', found', -⟩, child'⟩ := names'
  cases found.symm.trans found'
  cases child.symm.trans child'
  exact ⟨rfl, rfl, rfl⟩

/-- An entry of a directory has been taken away, and nothing else has changed. -/
structure Unnamed (fs fs' : FileSystem) (directory : NodeId) (name : String) : Prop where
  gone : fs'.child directory name = .error .notFound
  others : ∀ directory' name', directory' ≠ directory ∨ name' ≠ name →
    fs'.child directory' name' = fs.child directory' name'
  nodes : ∀ id, id ≠ directory → fs'.nodes.get? id = fs.nodes.get? id
  attributes : ∀ id, fs'.attributes? id = fs.attributes? id

theorem exists_entries (is : fs.isDirectory directory = true) :
    ∃ entries mode, fs.nodes.get? directory = some (.directory entries mode) := by
  unfold isDirectory entries? at is
  split at is
  case h_1 entries mode kept => exact ⟨entries, mode, kept⟩
  case h_2 => cases is

/-- Taking a name away from a directory does nothing else. -/
theorem unnamed_unbind (child : fs.child directory name = .ok id) :
    fs.Unnamed (fs.unbind directory name) directory name := by
  obtain ⟨entries, mode, kept⟩ := exists_entries (isDirectory_of_child child)
  have nodes (id : NodeId) : (fs.unbind directory name).nodes.get? id =
      if id = directory then some (.directory (entries.erase name) mode)
      else fs.nodes.get? id := by
    simp only [unbind, kept]
    exact Dictionary.get?_insert _ _ _ _
  have short : ¬ name.utf8ByteSize > nameLimit := by
    intro long
    simp only [FileSystem.child, entries?, kept] at child
    rw [if_pos long] at child
    cases child
  constructor
  case gone =>
    simp only [FileSystem.child, entries?, nodes, if_true]
    rw [if_neg short, Dictionary.get?_erase, if_pos rfl]
  case others =>
    intro directory' name' other
    by_cases same : directory' = directory
    · subst same
      have other : name' ≠ name := other.resolve_left fun differ => differ rfl
      simp only [FileSystem.child, entries?, nodes, kept, if_true]
      rw [Dictionary.get?_erase, if_neg other]
    · simp only [FileSystem.child, entries?, nodes, if_neg same]
  case nodes =>
    intro id other
    rw [nodes, if_neg other]
  case attributes =>
    intro id
    unfold FileSystem.attributes?
    by_cases same : id = directory
    · subst same
      rw [nodes, if_pos rfl, kept]
      rfl
    · rw [nodes, if_neg same]

/-! ## Looking at an entry -/

/-- **Who looks at an entry that is no link finds the entry.** -/
theorem Names.resolve (names : fs.Names at' path parent name id)
    (plain : fs.linkTarget? id = none) : fs.resolve at' true path = .ok ((name, id) :: parent) := by
  obtain ⟨slash, found, isDirectory⟩ := names.place
  obtain ⟨⟨left, walked⟩, last⟩ := resolveParent_eq_ok_iff.mp found
  obtain ⟨text, before, -⟩ := walkToParent_eq_ok_iff.mp walked
  obtain ⟨final, cut, leads⟩ := steps_eq (checkText_eq_ok text).2
  have onward : fs.Walks true left parent final ((name, id) :: parent) left := by
    rw [last] at leads
    cases leads with
    | name _ proper => exact .name proper names.child plain (.done _ _)
    | nameSlash _ proper =>
      exact .name proper names.child plain (.dot (isDirectory rfl) (.done _ _))
  exact resolve_eq_ok_iff.mpr ⟨text, left, cut ▸ before.append onward (.inl rfl)⟩

/-- What is told of an entry that is no link is told of the entry. -/
theorem Names.stat_iff (names : fs.Names at' path parent name id)
    (plain : fs.linkTarget? id = none) :
    fs.stat at' true path = .ok attributes ↔ fs.attributes? id = some attributes := by
  rw [stat_eq_ok_iff, names.resolve plain]
  constructor
  · rintro ⟨found, resolved, there⟩
    obtain rfl := Except.ok.inj resolved
    exact there
  · exact fun there => ⟨_, rfl, there⟩

/-! ## Two ways to take an entry away -/

theorem rmdir_eq_ok_iff : fs.rmdir at' path = .ok fs' ↔
    ∃ parent name id, fs.Names at' path parent name id ∧
      (∃ entries mode, fs.nodes.get? id = some (.directory entries mode) ∧ entries.size = 0) ∧
      fs' = fs.unbind parent.node name := by
  constructor
  · intro h
    obtain ⟨⟨parent, last⟩, found, h⟩ := exists_of_bind_eq_ok h
    cases last with
    | name name slash =>
      obtain ⟨id, child, h⟩ := exists_of_bind_eq_ok h
      split at h
      · cases h
      · rename_i entries listed
        have isDirectory : fs.isDirectory id = true := by rw [isDirectory, listed]; rfl
        obtain ⟨entries', mode, kept⟩ := exists_entries isDirectory
        rw [entries?, kept] at listed
        obtain rfl := Option.some.inj listed
        split at h
        · rename_i empty
          cases h
          exact ⟨parent, name, id, ⟨⟨slash, found, fun _ => isDirectory⟩, child⟩,
            ⟨_, mode, kept, empty⟩, rfl⟩
        · cases h
    | _ => cases h
  · rintro ⟨parent, name, id, ⟨⟨slash, found, -⟩, child⟩, ⟨entries, mode, kept, empty⟩, rfl⟩
    have listed : fs.entries? id = some entries := by rw [entries?, kept]
    rw [rmdir, found]
    dsimp only [Bind.bind, Except.bind]
    rw [child]
    dsimp only
    rw [listed]
    exact if_pos empty

theorem unlink_eq_ok_iff : fs.unlink at' path = .ok fs' ↔
    ∃ parent name id, fs.Names at' path parent name id ∧ fs.isDirectory id = false ∧
      fs' = fs.unbind parent.node name := by
  constructor
  · intro h
    obtain ⟨⟨parent, last⟩, found, h⟩ := exists_of_bind_eq_ok h
    cases last with
    | name name slash =>
      obtain ⟨id, child, h⟩ := exists_of_bind_eq_ok h
      split at h
      · cases h
      · rename_i other
        split at h
        · cases h
        · rename_i bare
          cases h
          exact ⟨parent, name, id, ⟨⟨slash, found, fun slash => absurd slash bare⟩, child⟩,
            by simpa using other, rfl⟩
    | _ => cases h
  · rintro ⟨parent, name, id, ⟨⟨slash, found, only⟩, child⟩, other, rfl⟩
    have bare : slash = false := by
      cases slash with
      | false => rfl
      | true => exact (only rfl).symm.trans other
    rw [unlink, found]
    show (fs.child parent.node name >>= _) = _
    rw [child]
    show (if fs.isDirectory id = true then _ else if slash = true then _ else _) = _
    rw [other, bare]
    rfl

/-! ## Looking first -/

/-- Looks at what a path leads to, and takes the entry that it names away as a directory or as
something else. -/
def remove (fs : FileSystem) (at' : Trail) (path : String) : Except Fault FileSystem :=
  match fs.stat at' true path with
  | .error e => .error e
  | .ok attributes =>
    if attributes.kind = .directory then fs.rmdir at' path else fs.unlink at' path

/-- What is taken away by those who look first: of the links, those that lead to something which is
no directory. -/
inductive Removable (fs : FileSystem) (at' : Trail) (path : String) (id : NodeId) : Prop where
  | file {contents : Bytes} {mode : Nat} (kept : fs.nodes.get? id = some (.file contents mode))
  | device {which : Device} (kept : fs.nodes.get? id = some (.device which))
  | directory {entries : Dictionary String NodeId} {mode : Nat}
      (kept : fs.nodes.get? id = some (.directory entries mode)) (empty : entries.size = 0)
  | link {target : String} {attributes : Attributes}
      (kept : fs.nodes.get? id = some (.link target))
      (leads : fs.stat at' true path = .ok attributes) (other : attributes.kind ≠ .directory)

theorem linkTarget?_eq_none (plain : ∀ target, fs.nodes.get? id ≠ some (.link target)) :
    fs.linkTarget? id = none := by
  unfold linkTarget?
  split
  case h_1 target kept => exact absurd kept (plain target)
  case h_2 => rfl

/-- Of a directory it is told that it is one. -/
theorem kind_eq_directory_iff (there : fs.attributes? id = some attributes) :
    attributes.kind = .directory ↔ fs.isDirectory id = true := by
  unfold attributes? at there
  obtain ⟨node, kept, rfl⟩ := Option.map_eq_some_iff.mp there
  rw [isDirectory, entries?, kept]
  cases node <;> simp

/-- A link is removable when it leads to something that is no directory. -/
theorem removable_link_iff {target : String} (kept : fs.nodes.get? id = some (.link target)) :
    fs.Removable at' path id ↔
      ∃ attributes, fs.stat at' true path = .ok attributes ∧ attributes.kind ≠ .directory := by
  constructor
  · intro removable
    cases removable with
    | link _ leads other => exact ⟨_, leads, other⟩
    | file other | device other | directory other => cases kept.symm.trans other
  · rintro ⟨attributes, leads, other⟩
    exact .link kept leads other

/-- An entry that is no directory and of which something is told is removable. -/
theorem Removable.of_stat (names : fs.Names at' path parent name id)
    (other : fs.isDirectory id = false) (told : fs.stat at' true path = .ok attributes)
    (kind : attributes.kind ≠ .directory) : fs.Removable at' path id := by
  cases kept : fs.nodes.get? id with
  | none =>
    have plain : fs.linkTarget? id = none := linkTarget?_eq_none (by simp [kept])
    have there := (names.stat_iff plain).mp told
    rw [attributes?, kept] at there
    cases there
  | some node =>
    cases node with
    | file => exact .file kept
    | device => exact .device kept
    | link => exact .link kept told kind
    | directory =>
      rw [isDirectory, entries?, kept] at other
      cases other

/-- Whoever looks at something removable is told whether to remove a directory. -/
theorem Removable.exists_stat (names : fs.Names at' path parent name id)
    (removable : fs.Removable at' path id) : ∃ attributes, fs.stat at' true path = .ok attributes ∧
      (attributes.kind = .directory ↔ fs.isDirectory id = true) := by
  have entry {node : Node} (kept : fs.nodes.get? id = some node)
      (plain : ∀ target, node ≠ .link target) : ∃ attributes,
        fs.stat at' true path = .ok attributes ∧
          (attributes.kind = .directory ↔ fs.isDirectory id = true) := by
    have there : fs.attributes? id = some _ := Option.map_eq_some_iff.mpr ⟨node, kept, rfl⟩
    refine ⟨_, (names.stat_iff (linkTarget?_eq_none fun target => ?_)).mpr there,
      kind_eq_directory_iff there⟩
    rw [kept]
    exact fun same => plain target (Option.some.inj same)
  cases removable with
  | file kept | device kept | directory kept => exact entry kept nofun
  | link kept leads other =>
    refine ⟨_, leads, fun directory => absurd directory other, fun directory => ?_⟩
    rw [isDirectory, entries?, kept] at directory
    cases directory

/-- A directory is removable when it is empty. -/
theorem Removable.empty (removable : fs.Removable at' path id) (is : fs.isDirectory id = true) :
    ∃ entries mode, fs.nodes.get? id = some (.directory entries mode) ∧ entries.size = 0 := by
  cases removable with
  | directory kept empty => exact ⟨_, _, kept, empty⟩
  | file kept | device kept | link kept =>
    rw [isDirectory, entries?, kept] at is
    cases is

/-- **Looking first takes away exactly what is removable.** -/
theorem remove_eq_ok_iff : fs.remove at' path = .ok fs' ↔
    ∃ parent name id, fs.Names at' path parent name id ∧ fs.Removable at' path id ∧
      fs' = fs.unbind parent.node name := by
  constructor
  · intro h
    unfold remove at h
    split at h
    case h_1 => cases h
    case h_2 attributes told =>
      split at h
      case isTrue =>
        obtain ⟨parent, name, id, names, ⟨entries, mode, kept, empty⟩, rfl⟩ :=
          rmdir_eq_ok_iff.mp h
        exact ⟨parent, name, id, names, .directory kept empty, rfl⟩
      case isFalse kind =>
        obtain ⟨parent, name, id, names, other, rfl⟩ := unlink_eq_ok_iff.mp h
        exact ⟨parent, name, id, names, .of_stat names other told kind, rfl⟩
  · rintro ⟨parent, name, id, names, removable, rfl⟩
    obtain ⟨attributes, told, kind⟩ := removable.exists_stat names
    rw [remove, told]
    dsimp only
    by_cases is : fs.isDirectory id = true
    · rw [if_pos (kind.mpr is)]
      exact rmdir_eq_ok_iff.mpr ⟨parent, name, id, names, removable.empty is, rfl⟩
    · rw [if_neg (mt kind.mp is)]
      exact unlink_eq_ok_iff.mpr ⟨parent, name, id, names, by simpa using is, rfl⟩

end ShellGateway.Files.FileSystem
