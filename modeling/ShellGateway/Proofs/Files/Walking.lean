import ShellGateway.Proofs.Files.Paths

/-!
# Walking along a path

A walk that succeeds is a derivation of `Walks`, one rule for each thing that a step can do.
Two facts about derivations carry what is said about paths elsewhere: they can be cut in two
and put together anywhere (`Walks.split`, `Walks.append`), and in a file system whose links
have targets that can be looked up, a walk with all links followed ends where no link is on
the way (`Walks.reaches`). So the names on the way from the root lead to the same place again,
whatever is followed (`resolve_path`).
-/

namespace ShellGateway.Files

open ShellGateway.Files.Path

@[simp]
theorem Trail.names_cons (name : String) (id : NodeId) (t : Trail) :
    Trail.names ((name, id) :: t) = t.names ++ [name] := by
  simp [Trail.names]

namespace FileSystem

/-- The walks that arrive, each with the links that it may follow and those that are left. -/
inductive Walks (fs : FileSystem) (follow : Bool) :
    Nat → Trail → List String → Trail → Nat → Prop where
  | done (links : Nat) (trail : Trail) : Walks fs follow links trail [] trail links
  | dot {links left : Nat} {trail found : Trail} {rest : List String}
      (directory : fs.isDirectory trail.node = true)
      (onward : Walks fs follow links trail rest found left) :
      Walks fs follow links trail ("." :: rest) found left
  | dotDot {links left : Nat} {trail found : Trail} {rest : List String}
      (directory : fs.isDirectory trail.node = true)
      (onward : Walks fs follow links trail.tail rest found left) :
      Walks fs follow links trail (".." :: rest) found left
  | name {links left : Nat} {trail found : Trail} {name : String} {rest : List String}
      {id : NodeId} (proper : name ≠ "." ∧ name ≠ "..")
      (child : fs.child trail.node name = .ok id) (plain : fs.linkTarget? id = none)
      (onward : Walks fs follow links ((name, id) :: trail) rest found left) :
      Walks fs follow links trail (name :: rest) found left
  | link {links left : Nat} {trail found : Trail} {name target : String} {rest : List String}
      {id : NodeId} (proper : name ≠ "." ∧ name ≠ "..")
      (child : fs.child trail.node name = .ok id) (points : fs.linkTarget? id = some target)
      (followed : follow = true ∨ rest ≠ [])
      (onward : Walks fs follow links (startOf trail target) (steps target ++ rest) found left) :
      Walks fs follow (links + 1) trail (name :: rest) found left
  /-- A link in the last place is not followed. -/
  | stays {links : Nat} {trail : Trail} {name target : String} {id : NodeId}
      (proper : name ≠ "." ∧ name ≠ "..") (child : fs.child trail.node name = .ok id)
      (points : fs.linkTarget? id = some target) (spared : follow = false) :
      Walks fs follow links trail [name] ((name, id) :: trail) links

variable {fs : FileSystem} {follow : Bool} {links left : Nat} {trail found : Trail}
  {id : NodeId} {name path : String} {components : List String}

/-- Only in a directory is there anything under a name. -/
theorem isDirectory_of_child {directory : NodeId} (child : fs.child directory name = .ok id) :
    fs.isDirectory directory = true := by
  unfold FileSystem.child at child
  unfold isDirectory
  cases h : fs.entries? directory with
  | none => rw [h] at child; cases child
  | some entries => rfl

theorem Walks.of_walk (h : fs.walk follow links trail components = .ok (found, left)) :
    fs.Walks follow links trail components found left := by
  fun_induction walk fs follow links trail components
  case case1 =>
    cases h
    exact .done _ _
  case case3 directory onward =>
    exact .dot (by simpa using directory) (onward h)
  case case4 directory _ onward => exact .dotDot (by simpa using directory) (onward h)
  case case6 notDot notDotDot _ child plain onward =>
    exact .name ⟨notDot, notDotDot⟩ child plain (onward h)
  case case7 rest _ notDot notDotDot _ child _ points spared =>
    cases h
    simp only [Bool.and_eq_true, List.isEmpty_iff, Bool.not_eq_true'] at spared
    rw [spared.1]
    exact .stays ⟨notDot, notDotDot⟩ child points spared.2
  case case9 rest _ notDot notDotDot _ child _ points followed _ _ onward =>
    refine .link ⟨notDot, notDotDot⟩ child points ?_ (onward h)
    simp only [Bool.and_eq_true, List.isEmpty_iff, Bool.not_eq_true', not_and_or] at followed
    rcases followed with some | followed
    · exact .inr some
    · exact .inl (by simpa using followed)
  all_goals cases h

theorem Walks.walk (h : fs.Walks follow links trail components found left) :
    fs.walk follow links trail components = .ok (found, left) := by
  induction h with
  | done => rw [FileSystem.walk]
  | dot directory onward ih => rw [FileSystem.walk, directory]; exact ih
  | dotDot directory onward ih => rw [FileSystem.walk, directory]; exact ih
  | name proper child plain onward ih =>
    rw [FileSystem.walk, isDirectory_of_child child, if_neg proper.1, if_neg proper.2, child]
    simp only [plain]
    exact ih
  | @link links _ trail _ name _ rest _ proper child points followed onward ih =>
    have goes : (rest.isEmpty && !follow) = false := by
      rcases followed with followed | some
      · rw [followed, Bool.not_true, Bool.and_false]
      · rw [List.isEmpty_eq_false_iff.mpr some, Bool.false_and]
    rw [FileSystem.walk, isDirectory_of_child child, if_neg proper.1, if_neg proper.2, child]
    simp only [points, goes]
    exact ih
  | stays proper child points spared =>
    rw [FileSystem.walk, isDirectory_of_child child, if_neg proper.1, if_neg proper.2, child]
    simp only [points, spared]
    rfl

theorem walks_iff : fs.Walks follow links trail components found left ↔
    fs.walk follow links trail components = .ok (found, left) :=
  ⟨Walks.walk, Walks.of_walk⟩

@[simp]
theorem walks_nil : fs.Walks follow links trail [] found left ↔ found = trail ∧ left = links := by
  refine ⟨fun h => ?_, fun ⟨arrived, unused⟩ => arrived ▸ unused ▸ .done _ _⟩
  cases h
  exact ⟨rfl, rfl⟩

@[simp]
theorem walks_dot : fs.Walks follow links trail ("." :: components) found left ↔
    fs.isDirectory trail.node = true ∧ fs.Walks follow links trail components found left := by
  refine ⟨fun h => ?_, fun ⟨directory, onward⟩ => .dot directory onward⟩
  generalize whole : "." :: components = all at h
  cases h with
  | done => cases whole
  | dot directory onward =>
    obtain ⟨-, rfl⟩ := List.cons.inj whole
    exact ⟨directory, onward⟩
  | dotDot => exact absurd (List.cons.inj whole).1 (by decide)
  | name proper | link proper | stays proper =>
    exact absurd (List.cons.inj whole).1.symm proper.1

@[simp]
theorem walks_dotDot : fs.Walks follow links trail (".." :: components) found left ↔
    fs.isDirectory trail.node = true ∧ fs.Walks follow links trail.tail components found left := by
  refine ⟨fun h => ?_, fun ⟨directory, onward⟩ => .dotDot directory onward⟩
  generalize whole : ".." :: components = all at h
  cases h with
  | done => cases whole
  | dot => exact absurd (List.cons.inj whole).1 (by decide)
  | dotDot directory onward =>
    obtain ⟨-, rfl⟩ := List.cons.inj whole
    exact ⟨directory, onward⟩
  | name proper | link proper | stays proper =>
    exact absurd (List.cons.inj whole).1.symm proper.2

/-! ## Cutting walks and putting them together -/

section

variable {middle : Nat} {between : Trail} {before after : List String}

/-- All links are followed on the way to the last components. -/
theorem Walks.append (h : fs.Walks true links trail before between middle)
    (onward : fs.Walks follow middle between after found left)
    (some : follow = true ∨ after ≠ []) :
    fs.Walks follow links trail (before ++ after) found left := by
  have open' {rest : List String} : follow = true ∨ rest ++ after ≠ [] := by
    rcases some with followed | some
    · exact .inl followed
    · exact .inr fun none => some (List.append_eq_nil_iff.mp none).2
  induction h with
  | done => exact onward
  | dot directory _ ih => exact .dot directory (ih onward)
  | dotDot directory _ ih => exact .dotDot directory (ih onward)
  | name proper child plain _ ih => exact .name proper child plain (ih onward)
  | link proper child points _ _ ih =>
    refine .link proper child points open' ?_
    have further := ih onward
    rw [List.append_assoc] at further
    exact further
  | stays _ _ _ spared => cases spared

theorem Walks.split (h : fs.Walks follow links trail (before ++ after) found left)
    (some : after ≠ []) :
    ∃ between middle, fs.Walks true links trail before between middle ∧
      fs.Walks follow middle between after found left := by
  generalize whole : before ++ after = components at h
  induction h generalizing before with
  | done => exact absurd (List.append_eq_nil_iff.mp whole).2 some
  | @dot links _ trail _ _ directory onward ih =>
    rcases List.append_eq_cons_iff.mp whole with ⟨rfl, rfl⟩ | ⟨before, rfl, rfl⟩
    · exact ⟨trail, links, .done _ _, .dot directory onward⟩
    · obtain ⟨between, middle, first, second⟩ := ih rfl
      exact ⟨between, middle, .dot directory first, second⟩
  | @dotDot links _ trail _ _ directory onward ih =>
    rcases List.append_eq_cons_iff.mp whole with ⟨rfl, rfl⟩ | ⟨before, rfl, rfl⟩
    · exact ⟨trail, links, .done _ _, .dotDot directory onward⟩
    · obtain ⟨between, middle, first, second⟩ := ih rfl
      exact ⟨between, middle, .dotDot directory first, second⟩
  | @name links _ trail _ _ _ _ proper child plain onward ih =>
    rcases List.append_eq_cons_iff.mp whole with ⟨rfl, rfl⟩ | ⟨before, rfl, rfl⟩
    · exact ⟨trail, links, .done _ _, .name proper child plain onward⟩
    · obtain ⟨between, middle, first, second⟩ := ih rfl
      exact ⟨between, middle, .name proper child plain first, second⟩
  | @link links _ trail _ _ target _ _ proper child points followed onward ih =>
    rcases List.append_eq_cons_iff.mp whole with ⟨rfl, rfl⟩ | ⟨before, rfl, rfl⟩
    · exact ⟨trail, links + 1, .done _ _, .link proper child points followed onward⟩
    · obtain ⟨between, middle, first, second⟩ := ih (List.append_assoc _ _ _)
      exact ⟨between, middle, .link proper child points (.inl rfl) first, second⟩
  | @stays links trail _ _ _ proper child points spared =>
    rcases List.append_eq_cons_iff.mp whole with ⟨rfl, rfl⟩ | ⟨before, rfl, none⟩
    · exact ⟨trail, links, .done _ _, .stays proper child points spared⟩
    · exact absurd (List.append_eq_nil_iff.mp none.symm).2 some

end

/-! ## Places without links on the way -/

/-- The trails from the root that stand for what is in the files. No name on the way is a
link. -/
inductive Reaches (fs : FileSystem) : Trail → Prop where
  | root : Reaches fs []
  | name {trail : Trail} {name : String} {id : NodeId} (reached : Reaches fs trail)
      (proper : IsName name) (child : fs.child trail.node name = .ok id)
      (plain : fs.linkTarget? id = none) : Reaches fs ((name, id) :: trail)

/-- What holds of the files of every machine: there is a root, numbers that are given out are
not the root's, and what a link points to is a text that can be looked up. -/
structure Sound (fs : FileSystem) : Prop where
  root : fs.isDirectory rootId = true
  fresh : rootId < fs.next
  targets : ∀ id target, fs.linkTarget? id = some target → checkText target = .ok ()

theorem Reaches.tail (h : fs.Reaches trail) : fs.Reaches trail.tail := by
  cases h with
  | root => exact .root
  | name reached => exact reached

theorem Reaches.isName (h : fs.Reaches trail) : ∀ name ∈ trail.names, IsName name := by
  induction h with
  | root => exact fun _ h => absurd h List.not_mem_nil
  | name _ proper _ _ ih =>
    intro other mem
    rw [Trail.names_cons, List.mem_append, List.mem_singleton] at mem
    rcases mem with mem | rfl
    · exact ih other mem
    · exact proper

theorem Reaches.startOf (h : fs.Reaches trail) (path : String) :
    fs.Reaches (startOf trail path) := by
  unfold FileSystem.startOf
  split
  · exact .root
  · exact h

/-- The faults of a text are looked for in this order. -/
theorem checkText_eq_ok (text : checkText path = .ok ()) : holdsNul path = false ∧ path ≠ "" := by
  unfold checkText at text
  split at text
  case isTrue => cases text
  case isFalse clean =>
    split at text
    case isTrue => cases text
    case isFalse filled =>
      exact ⟨by simpa using clean, by simpa [String.isEmpty_iff] using filled⟩

/-- **A walk that follows all links ends where no link is on the way.** -/
theorem Walks.reaches (sound : fs.Sound)
    (h : fs.Walks true links trail components found left) (start : fs.Reaches trail)
    (texts : ∀ name ∈ components, IsComponent name) : fs.Reaches found := by
  induction h with
  | done => exact start
  | dot _ _ ih => exact ih start fun n h => texts n (List.mem_cons_of_mem _ h)
  | dotDot _ _ ih => exact ih start.tail fun n h => texts n (List.mem_cons_of_mem _ h)
  | name proper child plain _ ih =>
    have name : IsName _ := ⟨texts _ List.mem_cons_self, proper.1, proper.2⟩
    exact ih (.name start name child plain) fun n h => texts n (List.mem_cons_of_mem _ h)
  | link _ _ points _ _ ih =>
    have clean := (checkText_eq_ok (sound.targets _ _ points)).1
    refine ih (start.startOf _) fun n h => ?_
    rcases List.mem_append.mp h with h | h
    · exact isComponent_of_mem_steps clean h
    · exact texts n (List.mem_cons_of_mem _ h)
  | stays _ _ _ spared => cases spared

/-- The names on the way lead to a place that no link is on the way to. -/
theorem Reaches.walks (h : fs.Reaches trail) (follow : Bool) (links : Nat) :
    fs.Walks follow links [] trail.names trail links := by
  induction h generalizing follow with
  | root => exact .done _ _
  | name _ proper child plain ih =>
    rw [Trail.names_cons]
    exact (ih true).append (.name ⟨proper.notDot, proper.notDotDot⟩ child plain (.done _ _))
      (.inr (List.cons_ne_nil _ _))

/-! ## Resolving -/

theorem exists_of_bind_eq_ok {ε α β : Type} {x : Except ε α} {f : α → Except ε β} {b : β}
    (h : (x >>= f) = .ok b) : ∃ a, x = .ok a ∧ f a = .ok b := by
  cases x with
  | error e => cases h
  | ok a => exact ⟨a, rfl, h⟩

theorem resolve_eq_ok_iff {at' : Trail} : fs.resolve at' follow path = .ok found ↔
    checkText path = .ok () ∧
      ∃ left, fs.Walks follow linkLimit (startOf at' path) (steps path) found left := by
  simp only [walks_iff]
  constructor
  · intro h
    obtain ⟨_, text, h⟩ := exists_of_bind_eq_ok h
    obtain ⟨⟨t, left⟩, walked, h⟩ := exists_of_bind_eq_ok h
    cases h
    exact ⟨text, left, walked⟩
  · rintro ⟨text, left, walked⟩
    rw [resolve, text, walked]
    rfl

theorem walkToParent_eq_ok_iff {at' parent : Trail} : fs.walkToParent links at' path = .ok (parent, left) ↔
    checkText path = .ok () ∧
      fs.Walks true links (startOf at' path) (splitLast path).1 parent left ∧
      fs.isDirectory parent.node = true := by
  rw [walks_iff, walkToParent]
  constructor
  · intro h
    split at h
    · cases h
    · rename_i text
      split at h
      · cases h
      · rename_i walked
        split at h
        · rename_i directory
          cases h
          exact ⟨text, walked, directory⟩
        · cases h
  · rintro ⟨text, walked, directory⟩
    rw [text]
    simp only [walked]
    exact if_pos directory

theorem resolveParent_eq_ok_iff {at' parent : Trail} {last : Last} : fs.resolveParent at' path = .ok (parent, last) ↔
    (∃ left, fs.walkToParent linkLimit at' path = .ok (parent, left)) ∧
      (splitLast path).2 = last := by
  constructor
  · intro h
    obtain ⟨⟨t, left⟩, walked, h⟩ := exists_of_bind_eq_ok h
    cases h
    exact ⟨⟨left, walked⟩, rfl⟩
  · rintro ⟨⟨left, walked⟩, rfl⟩
    rw [resolveParent, walked]
    rfl

theorem stat_eq_ok_iff {at' : Trail} {attributes : Attributes} : fs.stat at' follow path = .ok attributes ↔
    ∃ found, fs.resolve at' follow path = .ok found ∧
      fs.attributes? found.node = some attributes := by
  constructor
  · intro h
    obtain ⟨found, resolved, h⟩ := exists_of_bind_eq_ok h
    refine ⟨found, resolved, ?_⟩
    split at h
    · rename_i there
      cases h
      exact there
    · cases h
  · rintro ⟨found, resolved, there⟩
    rw [stat, resolved]
    dsimp only [Bind.bind, Except.bind]
    rw [there]
    rfl

theorem canonical_eq_ok_iff {at' : Trail} {canonical : String} :
    fs.canonical at' path = .ok canonical ↔
      ∃ t, fs.resolve at' true path = .ok t ∧ t.path.utf8ByteSize < lengthLimit ∧
        t.path = canonical := by
  constructor
  · intro h
    obtain ⟨t, resolved, h⟩ := exists_of_bind_eq_ok h
    refine ⟨t, resolved, ?_⟩
    by_cases short : t.path.utf8ByteSize < lengthLimit
    · rw [if_neg (by omega)] at h
      cases h
      exact ⟨short, rfl⟩
    · rw [if_pos (by omega)] at h
      cases h
  · rintro ⟨t, resolved, short, rfl⟩
    rw [FileSystem.canonical, resolved]
    show (if t.path.utf8ByteSize ≥ lengthLimit then _ else _) = _
    rw [if_neg (by omega)]
    rfl

/-- What a path leads to when links are followed has no links on the way. -/
theorem reaches_of_resolve {at' : Trail} (sound : fs.Sound)
    (start : isAbsolute path = true ∨ fs.Reaches at')
    (h : fs.resolve at' true path = .ok found) : fs.Reaches found := by
  obtain ⟨text, left, walks⟩ := resolve_eq_ok_iff.mp h
  refine walks.reaches sound ?_ fun name h => ?_
  · rcases start with absolute | reached
    · rw [FileSystem.startOf, if_pos absolute]
      exact .root
    · exact reached.startOf path
  · exact isComponent_of_mem_steps (checkText_eq_ok text).1 h

/-- A trail that is not the root's ends in a name. -/
theorem Reaches.steps (sound : fs.Sound) (h : fs.Reaches trail) (follow : Bool) (links : Nat) :
    fs.Walks follow links [] (steps trail.path) trail links := by
  cases trail with
  | nil =>
    show fs.Walks follow links [] (Path.steps (absolute [])) [] links
    rw [steps_root]
    exact .dot sound.root (.done _ _)
  | cons last before =>
    obtain ⟨name, id⟩ := last
    have components := fun n mem => (h.isName n mem).toIsComponent
    have walks := h.walks follow links
    rw [Trail.path, Trail.names_cons] at *
    rw [steps_absolute components]
    exact walks

/-- **The canonical path leads back, whether links are followed or not.** -/
theorem resolve_path (sound : fs.Sound) (h : fs.Reaches trail)
    (short : trail.path.utf8ByteSize < lengthLimit) (at' : Trail) (follow : Bool) :
    fs.resolve at' follow trail.path = .ok trail := by
  refine resolve_eq_ok_iff.mpr ⟨?_, linkLimit, ?_⟩
  · exact checkText_absolute (fun n mem => (h.isName n mem).toIsComponent) short
  · have absolute : isAbsolute trail.path = true := isAbsolute_absolute _
    rw [startOf, if_pos absolute]
    exact h.steps sound follow linkLimit

end FileSystem

end ShellGateway.Files
