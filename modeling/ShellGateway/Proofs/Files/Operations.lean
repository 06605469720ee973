import ShellGateway.Proofs.Files.Contents
import ShellGateway.Proofs.Files.Walking

/-!
# Operations on what is there

An operation is told a path and not a place. It walks to the directory of the last component
and looks at that component then: `EndsIn` lists the ways in which the path of an existing file
can end. What looks for the file itself depends on the place only, and says the same for every
path to it (`openFile_of_resolve`, `mkdir_of_resolve`). What takes a name away or gives it
depends on the last component. For the canonical path that is the name of the place in its
directory (`resolveParent_path`).
-/

namespace ShellGateway.Files.FileSystem

open ShellGateway.Files.Path

/-- How the path of an existing file ends: what is found for its last component, seen from the
directory of that component with some links left to follow. -/
inductive EndsIn (fs : FileSystem) (links : Nat) (parent : Trail) : Last → Trail → Prop where
  | name {name : String} {id : NodeId} {slash : Bool} (proper : name ≠ "." ∧ name ≠ "..")
      (child : fs.child parent.node name = .ok id) (plain : fs.linkTarget? id = none)
      (directory : slash = true → fs.isDirectory id = true) :
      EndsIn fs links parent (.name name slash) ((name, id) :: parent)
  | link {name target : String} {id : NodeId} {slash : Bool} {more left : Nat} {found : Trail}
      (child : fs.child parent.node name = .ok id) (points : fs.linkTarget? id = some target)
      (enough : links = more + 1)
      (onward : fs.Walks true more (startOf parent target)
        (steps target ++ if slash then ["."] else []) found left) :
      EndsIn fs links parent (.name name slash) found
  | place {last : Last} {found : Trail} (unnamed : last = .dot ∨ last = .dotDot ∨ last = .root)
      (directory : fs.isDirectory found.node = true) (root : last = .root → found = parent) :
      EndsIn fs links parent last found

variable {fs : FileSystem} {follow : Bool} {links left middle : Nat}
  {at' trail found parent : Trail} {id : NodeId} {name path : String}
  {components : List String} {last : Last} {a : Access}

theorem Walks.isDirectory (h : fs.Walks follow links trail (name :: components) found left) :
    fs.isDirectory trail.node = true := by
  cases h with
  | dot directory | dotDot directory => exact directory
  | name _ child | link _ child | stays _ child => exact isDirectory_of_child child

/-- Who asks for `.` at the end asks for a directory. -/
theorem Walks.isDirectory_of_dot (components : List String)
    (h : fs.Walks follow links trail (components ++ ["."]) found left) :
    fs.isDirectory found.node = true := by
  obtain ⟨between, middle, -, final⟩ := h.split (List.cons_ne_nil _ _)
  obtain ⟨directory, arrived⟩ := walks_dot.mp final
  cases arrived
  exact directory

theorem Reaches.isDirectory_tail (sound : fs.Sound) (h : fs.Reaches trail) :
    fs.isDirectory (Trail.node trail.tail) = true := by
  cases h with
  | root => exact sound.root
  | name _ _ child => exact isDirectory_of_child child

theorem EndsIn.of_walks (sound : fs.Sound) (reached : fs.Reaches parent)
    {final : List String} (leads : last.Leads final)
    (h : fs.Walks true links parent final found left) : fs.EndsIn links parent last found := by
  cases leads with
  | name name proper =>
    cases h with
    | dot | dotDot => simp at proper
    | name _ child plain onward =>
      cases onward
      exact .name proper child plain (by simp)
    | link _ child points _ onward => exact .link child points rfl onward
    | stays _ _ _ spared => cases spared
  | nameSlash name proper =>
    cases h with
    | dot | dotDot => simp at proper
    | name _ child plain onward =>
      have directory := Walks.isDirectory_of_dot [] onward
      cases (walks_dot.mp onward).2
      exact .name proper child plain fun _ => directory
    | link _ child points _ onward => exact .link child points rfl onward
  | dot => exact .place (.inl rfl) (Walks.isDirectory_of_dot [] h) (by simp)
  | dotSlash => exact .place (.inl rfl) (Walks.isDirectory_of_dot ["."] h) (by simp)
  | dotDot =>
    cases (walks_dotDot.mp h).2
    exact .place (.inr (.inl rfl)) (reached.isDirectory_tail sound) (by simp)
  | dotDotSlash =>
    exact .place (.inr (.inl rfl)) (Walks.isDirectory_of_dot [".."] h) (by simp)
  | root =>
    have directory := Walks.isDirectory_of_dot [] h
    cases (walks_dot.mp h).2
    exact .place (.inr (.inr rfl)) directory fun _ => rfl

/-- **The directory of the last component of an existing file is found**, with the rest of the
walk before it. -/
theorem exists_cut (sound : fs.Sound) (start : fs.Reaches (startOf at' path))
    (text : checkText path = .ok ())
    (h : fs.Walks true links (startOf at' path) (steps path) found left) :
    ∃ parent middle final, fs.walkToParent links at' path = .ok (parent, middle) ∧
      fs.Reaches parent ∧ (splitLast path).2.Leads final ∧
      steps path = (splitLast path).1 ++ final ∧
      fs.Walks true links (startOf at' path) (splitLast path).1 parent middle ∧
      fs.Walks true middle parent final found left := by
  obtain ⟨clean, filled⟩ := checkText_eq_ok text
  obtain ⟨final, cut, leads⟩ := steps_eq filled
  have texts : ∀ name ∈ (splitLast path).1, IsComponent name := by
    intro name mem
    exact isComponent_of_mem_steps clean (cut ▸ List.mem_append_left _ mem)
  obtain ⟨first, rest, some⟩ := leads.exists_cons
  have parts := h
  rw [cut] at parts
  obtain ⟨parent, middle, before, onward⟩ := parts.split (some ▸ List.cons_ne_nil _ _)
  refine ⟨parent, middle, final, ?_, before.reaches sound start texts, leads, cut, before, onward⟩
  exact walkToParent_eq_ok_iff.mpr ⟨text, before, (some ▸ onward).isDirectory⟩

theorem exists_parent (sound : fs.Sound) (start : fs.Reaches (startOf at' path))
    (text : checkText path = .ok ())
    (h : fs.Walks true links (startOf at' path) (steps path) found left) :
    ∃ parent middle, fs.walkToParent links at' path = .ok (parent, middle) ∧
      fs.Reaches parent ∧ fs.EndsIn middle parent (splitLast path).2 found := by
  obtain ⟨parent, middle, final, walked, reached, leads, -, -, onward⟩ :=
    exists_cut sound start text h
  exact ⟨parent, middle, walked, reached, .of_walks sound reached leads onward⟩

/-! ## Looking for the file itself -/

theorem openNode_of_isDirectory (directory : fs.isDirectory id = true) (creates : a.create = true) :
    fs.openNode a id = .error .isADirectory := by
  unfold isDirectory entries? at directory
  unfold openNode
  split at directory
  case h_1 entries mode found =>
    simp only [found]
    rw [creates, Bool.or_true, Bool.true_or, if_pos rfl]
  case h_2 => cases directory

/-- What opening for creation does when the directory of the last component has been found. -/
def openAt (fs : FileSystem) (a : Access) (parent : Trail) (left : Nat) :
    Last → Except Fault (FileSystem × NodeId)
  | .name name false =>
    match fs.child parent.node name with
    | .error .notFound => .ok (fs.create parent.node name (.file [] newFileMode))
    | .error e => .error e
    | .ok id =>
      if a.exclusive then .error .alreadyExists
      else
        match fs.linkTarget? id, left with
        | none, _ => fs.openNode a id
        | some _, 0 => .error .tooManyLinks
        | some target, more + 1 => fs.openCreating a more parent target
  | .name _ true | .dot | .dotDot | .root => .error .isADirectory

theorem openCreating_eq (walked : fs.walkToParent links at' path = .ok (parent, middle)) :
    fs.openCreating a links at' path = fs.openAt a parent middle (splitLast path).2 := by
  rw [openCreating, openAt.eq_def]
  split
  case h_1 error => cases walked.symm.trans error
  case h_2 found =>
    cases walked.symm.trans found
    generalize (splitLast path).2 = last
    cases last with
    | name name slash =>
      cases slash with
      | true => rfl
      | false =>
        dsimp only
        rw [if_neg Bool.false_ne_true]
        cases fs.child parent.node name with
        | error e => cases e <;> rfl
        | ok id =>
          dsimp only
          split
          · rfl
          · cases fs.linkTarget? id with
            | none => rfl
            | some target => cases middle <;> rfl
    | _ => rfl

/-- **Opening for creation opens what is there**, along any path to it. -/
theorem openCreating_of_walks (sound : fs.Sound) (creates : a.create = true)
    (any : a.exclusive = false) (start : fs.Reaches (startOf at' path))
    (text : checkText path = .ok ())
    (h : fs.Walks true links (startOf at' path) (steps path) found left) :
    fs.openCreating a links at' path = fs.openNode a found.node := by
  induction links using Nat.strong_induction_on generalizing at' path left with
  | _ links ih =>
    obtain ⟨parent, middle, walked, reached, ends⟩ := exists_parent sound start text h
    rw [openCreating_eq walked]
    generalize (splitLast path).2 = last at ends
    cases ends with
    | @name _ id slash proper child plain directory =>
      cases slash with
      | true => exact (openNode_of_isDirectory (directory rfl) creates).symm
      | false =>
        simp only [openAt, child, any, plain]
        rfl
    | @link _ target _ slash more _ _ child points enough onward =>
      cases slash with
      | true => exact (openNode_of_isDirectory (Walks.isDirectory_of_dot _ onward) creates).symm
      | false =>
        subst enough
        have fewer : more < links := left_le_of_walkToParent walked
        rw [if_neg Bool.false_ne_true, List.append_nil] at onward
        simp only [openAt, child, any, points]
        exact ih more fewer (reached.startOf target) (sound.targets _ _ points) onward
    | place unnamed directory =>
      rw [openNode_of_isDirectory directory creates]
      rcases unnamed with rfl | rfl | rfl <;> rfl

/-- What is there is not created. -/
theorem openCreating_exclusive (sound : fs.Sound) (only : a.exclusive = true)
    (start : fs.Reaches (startOf at' path)) (text : checkText path = .ok ())
    (h : fs.Walks true links (startOf at' path) (steps path) found left) :
    ∃ e ∈ [Fault.isADirectory, .alreadyExists],
      fs.openCreating a links at' path = .error e := by
  obtain ⟨parent, middle, walked, -, ends⟩ := exists_parent sound start text h
  rw [openCreating_eq walked]
  generalize (splitLast path).2 = last at ends
  have there {name : String} {slash : Bool} {id : NodeId}
      (child : fs.child parent.node name = .ok id) :
      ∃ e ∈ [Fault.isADirectory, .alreadyExists],
        fs.openAt a parent middle (.name name slash) = .error e := by
    cases slash with
    | true => exact ⟨_, List.mem_cons_self, rfl⟩
    | false =>
      simp only [openAt, child, only]
      exact ⟨_, List.mem_cons_of_mem _ List.mem_cons_self, rfl⟩
  cases ends with
  | name _ child | link child => exact there child
  | place unnamed =>
    rcases unnamed with rfl | rfl | rfl <;> exact ⟨_, List.mem_cons_self, rfl⟩

section

variable (sound : fs.Sound) (start : isAbsolute path = true ∨ fs.Reaches at')
  (h : fs.resolve at' true path = .ok found)

include start in
theorem reaches_startOf : fs.Reaches (startOf at' path) := by
  rcases start with absolute | reached
  · rw [startOf, if_pos absolute]
    exact .root
  · exact reached.startOf path

include sound start h

/-- **An existing file is opened as it is**, along any path to it. -/
theorem openFile_of_resolve (any : a.exclusive = false) :
    fs.openFile at' a path =
      if a.contradictory then .error .invalid else fs.openNode a found.node := by
  obtain ⟨text, left, walks⟩ := resolve_eq_ok_iff.mp h
  rw [openFile, (checkText_eq_ok text).1, Bool.false_or]
  by_cases bad : a.contradictory = true
  · rw [if_pos bad, if_pos bad]
    rfl
  · rw [if_neg bad, if_neg bad]
    by_cases creates : a.create = true
    · rw [creates, Bool.true_or]
      exact openCreating_of_walks sound creates any (reaches_startOf start) text walks
    · rw [Bool.not_eq_true] at creates
      rw [creates, any, h]
      rfl

/-- An existing file is not created, along any path to it. -/
theorem openFile_exclusive (only : a.exclusive = true) :
    ∃ e ∈ [Fault.invalid, .isADirectory, .alreadyExists],
      fs.openFile at' a path = .error e := by
  obtain ⟨text, left, walks⟩ := resolve_eq_ok_iff.mp h
  rw [openFile, (checkText_eq_ok text).1, Bool.false_or]
  by_cases bad : a.contradictory = true
  · rw [if_pos bad]
    exact ⟨_, List.mem_cons_self, rfl⟩
  · obtain ⟨e, mem, refused⟩ :=
      openCreating_exclusive sound only (reaches_startOf start) text walks
    rw [if_neg bad, only, Bool.or_true]
    exact ⟨e, List.mem_cons_of_mem _ mem, refused⟩

/-- The directory of the last component, and how the path ends there. -/
theorem exists_resolveParent :
    ∃ parent middle, fs.resolveParent at' path = .ok (parent, (splitLast path).2) ∧
      fs.Reaches parent ∧ fs.EndsIn middle parent (splitLast path).2 found := by
  obtain ⟨text, left, walks⟩ := resolve_eq_ok_iff.mp h
  obtain ⟨parent, middle, walked, reached, ends⟩ :=
    exists_parent sound (reaches_startOf start) text walks
  exact ⟨parent, middle, resolveParent_eq_ok_iff.mpr ⟨⟨middle, walked⟩, rfl⟩, reached, ends⟩

/-- **No directory is made where a file is.** -/
theorem mkdir_of_resolve : fs.mkdir at' path = .error .alreadyExists := by
  obtain ⟨parent, middle, walked, -, ends⟩ := exists_resolveParent sound start h
  rw [mkdir, walked]
  generalize (splitLast path).2 = last at ends
  cases ends with
  | name _ child | link child =>
    dsimp only [Bind.bind, Except.bind]
    rw [child]
    rfl
  | place unnamed => rcases unnamed with rfl | rfl | rfl <;> rfl

end

/-! ## Taking names away and giving them -/

/-- What moving a file does when it, both directories and what has the new name are found. -/
def moveOnto (fs : FileSystem) (oldParent newParent : Trail) (oldName newName : String)
    (id : NodeId) (target? : Option NodeId) : Except Fault FileSystem :=
  let moved := (fs.unbind oldParent.node oldName).bind newParent.node newName id
  if newParent.any (·.2 == id) then .error .invalid
  else
    match target? with
    | none => .ok moved
    | some target =>
      if target = id then .ok fs
      else if oldParent.any (·.2 == target) then .error .notEmpty
      else if fs.isDirectory id && !fs.isDirectory target then .error .notADirectory
      else if !fs.isDirectory id && fs.isDirectory target then .error .isADirectory
      else
        match fs.entries? target with
        | some entries => if entries.size ≠ 0 then .error .notEmpty else .ok moved
        | none => .ok moved

/-- What moving a file does when both directories have been found. -/
def renameAt (fs : FileSystem) : Trail × Last → Trail × Last → Except Fault FileSystem
  | (oldParent, .name oldName oldSlash), (newParent, .name newName newSlash) =>
    match fs.child oldParent.node oldName with
    | .error e => .error e
    | .ok id =>
      match fs.childOrFree newParent.node newName with
      | .error e => .error e
      | .ok target? =>
        if !fs.isDirectory id && (oldSlash || newSlash) then .error .notADirectory
        else fs.moveOnto oldParent newParent oldName newName id target?
  | _, _ => .error .busy

/-- A file that is no directory takes the place of none. -/
theorem moveOnto_directory {oldParent newParent : Trail} {oldName newName : String}
    {moved target : NodeId} (file : fs.isDirectory moved = false)
    (directory : fs.isDirectory target = true) :
    ∃ e ∈ [Fault.invalid, .notEmpty, .isADirectory, .notADirectory],
      fs.moveOnto oldParent newParent oldName newName moved (some target) = .error e := by
  have other : target ≠ moved := by
    rintro rfl
    cases file.symm.trans directory
  unfold moveOnto
  by_cases inside : newParent.any (·.2 == moved) = true
  · exact ⟨.invalid, by simp, if_pos inside⟩
  · dsimp only
    rw [if_neg inside, if_neg other, file, directory]
    by_cases above : oldParent.any (·.2 == target) = true
    · exact ⟨.notEmpty, by simp, if_pos above⟩
    · exact ⟨.isADirectory, by simp, if_neg above⟩

theorem rename_eq {old new : String} {x y : Trail × Last} (clean : holdsNul new = false)
    (source : fs.resolveParent at' old = .ok x) (goal : fs.resolveParent at' new = .ok y) :
    fs.rename at' old new = fs.renameAt x y := by
  rw [rename, clean, source, goal]
  obtain ⟨oldParent, oldLast⟩ := x
  obtain ⟨newParent, newLast⟩ := y
  cases oldLast with
  | name oldName oldSlash =>
    cases newLast with
    | name newName newSlash =>
      rw [renameAt]
      show (fs.child oldParent.node oldName >>= _) = _
      cases fs.child oldParent.node oldName with
      | error e => rfl
      | ok id =>
        show (fs.childOrFree newParent.node newName >>= _) = _
        cases fs.childOrFree newParent.node newName with
        | error e => rfl
        | ok target? =>
          show (if (!fs.isDirectory id && (oldSlash || newSlash)) = true then _ else _) =
            if (!fs.isDirectory id && (oldSlash || newSlash)) = true then _
            else fs.moveOnto oldParent newParent oldName newName id target?
          unfold moveOnto
          -- both sides ask the same questions in the same order, so the answers decide
          generalize fs.isDirectory id = directory
          generalize (oldSlash || newSlash) = slash
          generalize newParent.any (·.2 == id) = inside
          cases directory <;> cases slash <;> cases inside
          all_goals try rfl
          all_goals cases target? with
            | none => rfl
            | some target =>
              show (if target = id then _ else _) = if target = id then _ else _
              generalize oldParent.any (·.2 == target) = above
              generalize fs.isDirectory target = directory
              by_cases same : target = id
              · rw [if_pos same, if_pos same]
                rfl
              · rw [if_neg same, if_neg same]
                cases above <;> cases directory <;> rfl
    | _ => rfl
  | _ => cases newLast <;> rfl

/-- The last component of the path is the name of a link. -/
def EndsInLink (fs : FileSystem) (at' : Trail) (path : String) : Prop :=
  ∃ parent name slash id, fs.resolveParent at' path = .ok (parent, .name name slash) ∧
    fs.child parent.node name = .ok id ∧ fs.linkTarget? id ≠ none

/-- What is the same for two last components of which the second is not followed by a slash: they
are the same name of a file, which is a directory if a slash follows the first, or they are no
components. -/
inductive Alike (fs : FileSystem) (parent : Trail) : Last → Last → Prop where
  | name {name : String} {id : NodeId} {slash : Bool} (child : fs.child parent.node name = .ok id)
      (directory : slash = true → fs.isDirectory id = true) :
      Alike fs parent (.name name slash) (.name name false)
  | root : Alike fs parent .root .root

theorem resolveParent_root (sound : fs.Sound) (at' : Trail) :
    fs.resolveParent at' (Trail.path []) = .ok ([], .root) := by
  have text : checkText (absolute []) = .ok () := checkText_absolute (by simp) (by decide +kernel)
  have last : splitLast (absolute []) = ([], .root) := by decide +kernel
  have here : fs.Walks true linkLimit (startOf at' (absolute [])) (splitLast (absolute [])).1 []
      linkLimit := by
    rw [last, startOf, if_pos (isAbsolute_absolute _)]
    exact .done _ _
  exact resolveParent_eq_ok_iff.mpr
    ⟨⟨_, walkToParent_eq_ok_iff.mpr ⟨text, here, sound.root⟩⟩, congrArg Prod.snd last⟩

/-- **The canonical path ends in the name of its place.** -/
theorem resolveParent_path (reached : fs.Reaches ((name, id) :: parent))
    (short : (Trail.path ((name, id) :: parent)).utf8ByteSize < lengthLimit) (at' : Trail) :
    fs.resolveParent at' (Trail.path ((name, id) :: parent)) = .ok (parent, .name name false) := by
  cases reached with
  | name reached proper child plain =>
    have names := fun n mem => (reached.isName n mem).toIsComponent
    have all : ∀ n ∈ parent.names ++ [name], IsComponent n := by
      intro n mem
      rcases List.mem_append.mp mem with mem | mem
      · exact names n mem
      · exact List.mem_singleton.mp mem ▸ proper.toIsComponent
    rw [Trail.path, Trail.names_cons] at *
    have last := splitLast_absolute names proper
    have there : fs.Walks true linkLimit (startOf at' (absolute (parent.names ++ [name])))
        (splitLast (absolute (parent.names ++ [name]))).1 parent linkLimit := by
      rw [last, startOf, if_pos (isAbsolute_absolute _)]
      exact reached.walks true linkLimit
    have walked := walkToParent_eq_ok_iff.mpr
      ⟨checkText_absolute all short, there, isDirectory_of_child child⟩
    exact resolveParent_eq_ok_iff.mpr ⟨⟨_, walked⟩, congrArg Prod.snd last⟩

/-- What is no link may be followed. -/
theorem Walks.unfollowed {final : List String} (leads : last.Leads final)
    (h : fs.Walks true links parent final found left)
    (plain : ∀ name slash id, last = .name name slash → fs.child parent.node name = .ok id →
      fs.linkTarget? id = none) (follow : Bool) :
    fs.Walks follow links parent final found left := by
  cases leads with
  | name _ proper =>
    cases h with
    | dot | dotDot => simp at proper
    | name _ child target onward => exact .name proper child target (by simpa using onward)
    | link _ child points | stays _ child points =>
      cases (plain _ _ _ rfl child).symm.trans points
  | nameSlash _ proper =>
    cases h with
    | dot | dotDot => simp at proper
    | name _ child target onward => exact .name proper child target (by simpa using onward)
    | link _ child points => cases (plain _ _ _ rfl child).symm.trans points
  | _ => simpa using h

section

variable (sound : fs.Sound) (start : isAbsolute path = true ∨ fs.Reaches at')
  (h : fs.resolve at' true path = .ok found) (plain : ¬ fs.EndsInLink at' path)

include sound start h plain

/-- **A path that does not end in a link names the same for those who follow no link there.** -/
theorem resolve_of_not_endsInLink (follow : Bool) : fs.resolve at' follow path = .ok found := by
  obtain ⟨text, left, walks⟩ := resolve_eq_ok_iff.mp h
  obtain ⟨parent, middle, final, walked, -, leads, cut, before, onward⟩ :=
    exists_cut sound (reaches_startOf start) text walks
  obtain ⟨first, rest, some⟩ := leads.exists_cons
  have unlinked : ∀ name slash id, (splitLast path).2 = .name name slash →
      fs.child parent.node name = .ok id → fs.linkTarget? id = none := by
    intro name slash id last child
    by_contra points
    exact plain ⟨parent, name, slash, id,
      resolveParent_eq_ok_iff.mpr ⟨⟨middle, walked⟩, last⟩, child, points⟩
  refine resolve_eq_ok_iff.mpr ⟨text, left, ?_⟩
  rw [cut]
  exact before.append (onward.unfollowed leads unlinked follow) (.inr (some ▸ List.cons_ne_nil _ _))

variable (short : found.path.utf8ByteSize < lengthLimit)

include short

/-- **A path that ends in a name ends in the name of its place.** -/
theorem exists_alike (notDot : (splitLast path).2 ≠ .dot) (notDotDot : (splitLast path).2 ≠ .dotDot) :
    ∃ parent last last', fs.resolveParent at' path = .ok (parent, last) ∧
      fs.resolveParent at' found.path = .ok (parent, last') ∧ fs.Alike parent last last' := by
  have reached := reaches_of_resolve sound start h
  obtain ⟨parent, middle, walked, -, ends⟩ := exists_resolveParent sound start h
  generalize final : (splitLast path).2 = last at walked ends notDot notDotDot
  cases ends with
  | name proper child _ directory =>
    exact ⟨parent, _, _, walked, resolveParent_path reached short at', .name child directory⟩
  | link child points =>
    exact absurd ⟨parent, _, _, _, walked, child, points ▸ Option.some_ne_none _⟩ plain
  | place unnamed _ root =>
    rcases unnamed with dot | dotDot | rfl
    · exact absurd dot notDot
    · exact absurd dotDot notDotDot
    · obtain ⟨text, left, walks⟩ := resolve_eq_ok_iff.mp h
      obtain ⟨absolute, steps⟩ := of_splitLast_root (checkText_eq_ok text).2 final
      rw [steps, startOf, if_pos absolute, walks_dot, walks_nil] at walks
      obtain ⟨-, rfl, -⟩ := walks
      cases root rfl
      exact ⟨_, _, _, walked, resolveParent_root sound at', .root⟩

/-- **Removing a file** is the same along any path to it that does not end in a link. -/
theorem unlink_path : fs.unlink at' found.path = fs.unlink at' path := by
  have reached := reaches_of_resolve sound start h
  obtain ⟨parent, middle, walked, -, ends⟩ := exists_resolveParent sound start h
  generalize (splitLast path).2 = last at walked ends
  cases ends with
  | @name _ id slash _ child _ directory =>
    rw [unlink, unlink, walked, resolveParent_path reached short at']
    show (fs.child parent.node _ >>= _) = (fs.child parent.node _ >>= _)
    rw [child]
    show (if fs.isDirectory id = true then _ else _) = if fs.isDirectory id = true then _ else _
    by_cases dir : fs.isDirectory id = true
    · rw [if_pos dir, if_pos dir]
    · have noSlash : slash = false := by simpa using mt directory dir
      rw [if_neg dir, if_neg dir, noSlash]
  | link child points =>
    exact absurd ⟨parent, _, _, _, walked, child, points ▸ Option.some_ne_none _⟩ plain
  | place unnamed directory =>
    have refused : fs.unlink at' path = .error .isADirectory := by
      rw [unlink, walked]
      rcases unnamed with rfl | rfl | rfl <;> rfl
    rw [refused]
    cases found with
    | nil =>
      rw [unlink, resolveParent_root sound]
      rfl
    | cons last before =>
      obtain ⟨name, id⟩ := last
      rw [unlink, resolveParent_path reached short at']
      cases reached with
      | name _ _ child =>
        show (fs.child (Trail.node before) name >>= _) = _
        rw [child]
        show (if fs.isDirectory id = true then _ else _) = _
        exact if_pos directory

end

section

variable {last last' : Last} (here : fs.resolveParent at' path = .ok (parent, last))
  (there : fs.resolveParent at' found.path = .ok (parent, last'))
  (alike : fs.Alike parent last last')

include here there alike

/-- A slash is no concern of those who remove a directory. -/
theorem rmdir_path : fs.rmdir at' found.path = fs.rmdir at' path := by
  rw [rmdir, rmdir, here, there]
  cases alike with
  | name => rfl
  | root => rfl

/-- It is no concern of those who move one. -/
theorem rename_from_path (new : String) : fs.rename at' found.path new = fs.rename at' path new := by
  by_cases clean : holdsNul new = true
  · rw [rename, rename, if_pos clean, if_pos clean]
    rfl
  · rw [Bool.not_eq_true] at clean
    cases goal : fs.resolveParent at' new with
    | error e =>
      rw [rename, rename, clean, here, there, goal]
      rfl
    | ok y =>
      rw [rename_eq clean here goal, rename_eq clean there goal]
      obtain ⟨newParent, newLast⟩ := y
      cases alike with
      | root => rfl
      | @name name id slash child directory =>
        cases newLast with
        | name newName newSlash =>
          simp only [renameAt, child]
          by_cases dir : fs.isDirectory id = true
          · rw [dir]
            rfl
          · have noSlash : slash = false := by simpa using mt directory dir
            rw [noSlash]
        | _ => rfl

/-- Who moves a file to the name of a directory is refused, though not for the same reason if a
slash ends the name. -/
theorem rename_to_path (clean : holdsNul path = false) (clean' : holdsNul found.path = false)
    (old : String) :
    fs.rename at' old found.path = fs.rename at' old path ∨
      (∃ e ∈ [Fault.invalid, .notEmpty, .isADirectory, .notADirectory],
        fs.rename at' old found.path = .error e) ∧ fs.rename at' old path = .error .notADirectory := by
  cases source : fs.resolveParent at' old with
  | error e =>
    left
    rw [rename, rename, clean, clean', source]
    rfl
  | ok x =>
    rw [rename_eq clean source here, rename_eq clean' source there]
    obtain ⟨oldParent, oldLast⟩ := x
    cases oldLast with
    | name oldName oldSlash =>
      cases alike with
      | root => exact .inl rfl
      | @name name id slash child directory =>
        have taken : fs.childOrFree parent.node name = .ok (some id) := by
          rw [childOrFree, child]
        simp only [renameAt, taken]
        cases fs.child oldParent.node oldName with
        | error e => exact .inl rfl
        | ok moved =>
          dsimp only
          cases slash with
          | false => exact .inl rfl
          | true =>
            cases dir : fs.isDirectory moved with
            | true => exact .inl rfl
            | false =>
              cases oldSlash with
              | true => exact .inl rfl
              | false => exact .inr ⟨moveOnto_directory dir (directory rfl), rfl⟩
    | _ => exact .inl rfl

end

end ShellGateway.Files.FileSystem
