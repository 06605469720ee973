import ShellGateway.Proofs.Files.Removal
import ShellGateway.Sftp.Server

/-!
# Files stay sound

No operation takes the root away, gives its number to another node, or makes a link to what
cannot be looked up. So whatever is asked of a file server, its files are sound afterwards if
they were before (`Sound.handle`, `Sound.run`), as those of a new machine are
(`sound_machine`).
-/

namespace ShellGateway.Files

/-- A node that may be kept anywhere but in the place of the root. -/
def Node.Fits (node : Node) : Prop :=
  ∀ target, node = .link target → FileSystem.checkText target = .ok ()

namespace FileSystem

variable {fs fs' : FileSystem} {at' : Trail} {path : String} {id : NodeId} {a : Access}

theorem Sound.put (sound : fs.Sound) {node : Node} (fits : Node.Fits node)
    (root : id = rootId → ∃ entries mode, node = .directory entries mode) :
    (fs.put id node).Sound where
  root := by
    unfold isDirectory entries? FileSystem.put
    dsimp only
    rw [Dictionary.get?_insert]
    by_cases same : rootId = id
    · obtain ⟨entries, mode, rfl⟩ := root same.symm
      rw [if_pos same]
      rfl
    · rw [if_neg same]
      exact sound.root
  fresh := sound.fresh
  targets := by
    intro other target points
    unfold linkTarget? FileSystem.put at points
    dsimp only at points
    rw [Dictionary.get?_insert] at points
    by_cases same : other = id
    · rw [if_pos same] at points
      cases node with
      | link => cases points; exact fits _ rfl
      | _ => cases points
    · rw [if_neg same] at points
      exact sound.targets other target points

theorem fits_file (c : Bytes) (mode : Nat) : Node.Fits (.file c mode) := nofun

theorem fits_directory (entries : Dictionary String NodeId) (mode : Nat) :
    Node.Fits (.directory entries mode) := nofun

theorem file_ne_directory {c : Bytes} {mode : Nat} (entries : Dictionary String NodeId) (mode' : Nat) :
    Node.file c mode ≠ .directory entries mode' := by
  rintro ⟨⟩

/-- A directory in the place of a directory, or of anything else. -/
theorem Sound.putDirectory (sound : fs.Sound) (entries : Dictionary String NodeId) (mode : Nat) :
    (fs.put id (.directory entries mode)).Sound :=
  sound.put (fits_directory entries mode) fun _ => ⟨entries, mode, rfl⟩

/-- A file in the place of what is no directory. -/
theorem Sound.putFile (sound : fs.Sound) {node : Node} (found : fs.nodes.get? id = some node)
    (file : ∀ entries mode, node ≠ .directory entries mode) (c : Bytes) (mode : Nat) :
    (fs.put id (.file c mode)).Sound := by
  refine sound.put (fits_file c mode) ?_
  rintro rfl
  have root := sound.root
  unfold isDirectory entries? at root
  rw [found] at root
  cases node with
  | directory entries mode => exact absurd rfl (file entries mode)
  | _ => cases root

theorem Sound.bind (sound : fs.Sound) (directory : NodeId) (name : String) (id : NodeId) :
    (fs.bind directory name id).Sound := by
  unfold FileSystem.bind
  split
  · exact sound.putDirectory _ _
  · exact sound

theorem Sound.unbind (sound : fs.Sound) (directory : NodeId) (name : String) :
    (fs.unbind directory name).Sound := by
  unfold FileSystem.unbind
  split
  · exact sound.putDirectory _ _
  · exact sound

theorem Sound.create (sound : fs.Sound) {node : Node} (fits : Node.Fits node)
    (directory : NodeId) (name : String) : (fs.create directory name node).1.Sound := by
  have other : fs.next ≠ rootId := Nat.ne_of_gt sound.fresh
  have kept : (fs.put fs.next node).Sound := sound.put fits fun same => absurd same other
  have grown : ({ fs with nodes := fs.nodes.insert fs.next node, next := fs.next + 1 } :
      FileSystem).Sound := ⟨kept.root, Nat.lt_succ_of_lt sound.fresh, kept.targets⟩
  exact grown.bind _ _ _

/-- Nodes that may all be kept anywhere. -/
theorem sound_of_fits (root : fs.isDirectory rootId = true) (fresh : rootId < fs.next)
    (fits : ∀ entry ∈ fs.nodes.entries, entry.2.Fits) : fs.Sound where
  root := root
  fresh := fresh
  targets := by
    intro id target points
    unfold linkTarget? at points
    split at points
    case h_1 found =>
      cases points
      obtain ⟨entry, first, same⟩ := Option.map_eq_some_iff.mp found
      exact fits entry (List.mem_of_find?_eq_some first) target same
    case h_2 => cases points

/-! ## Operations -/

theorem Sound.mkdir (sound : fs.Sound) (made : fs.mkdir at' path = .ok fs') : fs'.Sound := by
  obtain ⟨⟨parent, last⟩, -, made⟩ := exists_of_bind_eq_ok made
  cases last with
  | name name slash =>
    dsimp only at made
    split at made
    · cases made
    · cases made
      exact sound.create (fits_directory _ _) _ _
    · cases made
  | _ => cases made

theorem Sound.rmdir (sound : fs.Sound) (gone : fs.rmdir at' path = .ok fs') : fs'.Sound := by
  obtain ⟨parent, name, id, -, -, rfl⟩ := rmdir_eq_ok_iff.mp gone
  exact sound.unbind _ _

theorem Sound.unlink (sound : fs.Sound) (gone : fs.unlink at' path = .ok fs') : fs'.Sound := by
  obtain ⟨parent, name, id, -, -, rfl⟩ := unlink_eq_ok_iff.mp gone
  exact sound.unbind _ _

theorem Sound.moveOnto (sound : fs.Sound) {oldParent newParent : Trail} {oldName newName : String}
    {target? : Option NodeId}
    (done : fs.moveOnto oldParent newParent oldName newName id target? = .ok fs') :
    fs'.Sound := by
  have moved := (sound.unbind oldParent.node oldName).bind newParent.node newName id
  unfold FileSystem.moveOnto at done
  grind

theorem Sound.renameAt (sound : fs.Sound) {x y : Trail × Path.Last}
    (done : fs.renameAt x y = .ok fs') : fs'.Sound := by
  rw [renameAt.eq_def] at done
  split at done
  case h_1 =>
    split at done
    · cases done
    · split at done
      · cases done
      · split at done
        · cases done
        · exact sound.moveOnto done
  case h_2 => cases done

theorem Sound.rename (sound : fs.Sound) {old new : String}
    (done : fs.rename at' old new = .ok fs') : fs'.Sound := by
  have whole := done
  by_cases clean : holdsNul new = true
  · rw [FileSystem.rename, if_pos clean] at done
    cases done
  · rw [FileSystem.rename, if_neg clean] at done
    obtain ⟨x, source, done⟩ := exists_of_bind_eq_ok done
    obtain ⟨y, goal, -⟩ := exists_of_bind_eq_ok done
    rw [rename_eq (by simpa using clean) source goal] at whole
    exact sound.renameAt whole

theorem Sound.openNode {id' : NodeId} (sound : fs.Sound)
    (opened : fs.openNode a id = .ok (fs', id')) : fs'.Sound := by
  unfold FileSystem.openNode at opened
  split at opened
  case h_1 =>
    split at opened <;> cases opened
    exact sound
  case h_2 c mode found =>
    split at opened <;> cases opened
    · exact sound.putFile found file_ne_directory _ _
    · exact sound
  case h_3 => cases opened
  case h_4 =>
    cases opened
    exact sound
  case h_5 => cases opened

theorem Sound.openCreating {links : Nat} (sound : fs.Sound)
    (opened : fs.openCreating a links at' path = .ok (fs', id)) : fs'.Sound := by
  fun_induction FileSystem.openCreating fs a links at' path
  -- made at the end of the path
  case case3 =>
    cases opened
    exact sound.create (fits_file _ _) _ _
  -- there, and no link
  case case6 => exact sound.openNode opened
  -- a link
  case case8 ih => exact ih opened
  all_goals cases opened

theorem Sound.openFile (sound : fs.Sound) (opened : fs.openFile at' a path = .ok (fs', id)) :
    fs'.Sound := by
  unfold FileSystem.openFile at opened
  by_cases bad : (holdsNul path || a.contradictory) = true
  · rw [if_pos bad] at opened
    cases opened
  · rw [if_neg bad] at opened
    by_cases creates : (a.create || a.exclusive) = true
    · rw [if_pos creates] at opened
      exact sound.openCreating opened
    · rw [if_neg creates] at opened
      obtain ⟨trail, -, opened⟩ := exists_of_bind_eq_ok opened
      exact sound.openNode opened

theorem Sound.writeDevice (sound : fs.Sound) {which : Device}
    (written : fs.writeDevice which = .ok fs') : fs'.Sound := by
  cases which <;> cases written <;> exact sound

theorem Sound.writeAt (sound : fs.Sound) {offset : Nat} {bytes : Bytes}
    (written : fs.writeAt id offset bytes = .ok fs') : fs'.Sound := by
  unfold FileSystem.writeAt at written
  split at written
  · cases written
  · split at written
    case h_1 found =>
      split at written
      · cases written
      · cases written
        exact sound.putFile found file_ne_directory _ _
    case h_2 => exact sound.writeDevice written
    case h_3 => cases written

theorem Sound.appendTo (sound : fs.Sound) {bytes : Bytes}
    (written : fs.appendTo id bytes = .ok fs') : fs'.Sound := by
  unfold FileSystem.appendTo at written
  split at written
  case h_1 found =>
    cases written
    exact sound.putFile found file_ne_directory _ _
  case h_2 => exact sound.writeDevice written
  case h_3 => cases written

/-! ## New machines -/

theorem sound_empty : FileSystem.empty.Sound := by
  refine sound_of_fits (by decide) (by decide) fun entry mem => ?_
  rw [List.mem_singleton.mp mem]
  exact fits_directory _ _

theorem Sound.mkdirAll (sound : fs.Sound) (path : String) : (fs.mkdirAll path).Sound := by
  unfold FileSystem.mkdirAll
  -- the directories made so far are an accumulator, and their names another
  suffices made : ∀ (names : List String) (acc : FileSystem × List String), acc.1.Sound →
      (names.foldl (fun acc name =>
        ((acc.1.mkdir [] (Path.absolute (acc.2 ++ [name]))).toOption.getD acc.1,
          acc.2 ++ [name])) acc).1.Sound from made _ _ sound
  intro names
  induction names with
  | nil => exact fun _ sound => sound
  | cons name rest ih =>
    intro acc sound
    refine ih _ ?_
    dsimp only
    cases made : acc.1.mkdir [] (Path.absolute (acc.2 ++ [name])) with
    | error e => exact sound
    | ok fs' => exact sound.mkdir made

theorem Sound.install (sound : fs.Sound) {node : Node} (fits : node.Fits) (path : String) :
    (fs.install path node).Sound := by
  have above := sound.mkdirAll (Path.absolute (Path.components path).dropLast)
  unfold FileSystem.install
  dsimp only
  split
  · exact above.create fits _ _
  · exact above

/-- **The files of a new machine are sound.** -/
theorem sound_machine : FileSystem.machine.Sound := by
  have device (which : Device) : Node.Fits (.device which) := nofun
  exact (((sound_empty.install (fits_directory _ _) _).install (device _) _).install
    (device _) _).install (device _) _

end FileSystem

end ShellGateway.Files

namespace ShellGateway.Sftp.Server

open Files FileSystem

variable {s : Server} {files : FileSystem}

theorem sound_handOver {file : OpenFile} {offset : Nat} {data : Bytes} {files' : FileSystem}
    (sound : files.Sound) (taken : handOver files file offset data = .ok files') :
    files'.Sound := by
  unfold handOver at taken
  split at taken
  · cases taken
  · split at taken
    · exact sound.appendTo taken
    · exact sound.writeAt taken

theorem sound_handOverAll (file : OpenFile) (pieces : Nat) (sound : files.Sound) (position : Nat)
    (data : Bytes) : (handOverAll file pieces files position data).1.Sound := by
  fun_induction handOverAll file pieces files position data
  case case1 => exact sound
  case case2 taken _ => exact sound_handOver sound taken
  case case3 taken _ ih => exact ih (sound_handOver sound taken)
  case case4 => exact sound

theorem sound_change {result : Except Fault FileSystem} (sound : files.Sound)
    (kept : ∀ files', result = .ok files' → files'.Sound) :
    (s.change files result).files.Sound := by
  cases result with
  | error e => exact sound
  | ok files' => exact kept files' rfl

theorem sound_write (s : Server) (sound : files.Sound) (h : String) (offset : Nat) (data : Bytes) :
    (s.write files h offset data).files.Sound := by
  unfold write
  split
  case h_1 => exact sound
  case h_2 file _ =>
    split
    case h_1 => exact sound
    case h_2 position _ =>
      split
      · exact sound
      · split
        case h_1 => exact sound
        case h_2 =>
          have handed := sound_handOverAll file data.length sound position data
          generalize handOverAll file data.length files position data = result at handed ⊢
          obtain ⟨files', fate⟩ := result
          cases fate <;> exact handed

/-- **Every request leaves the files sound.** -/
theorem sound_handle (s : Server) (sound : files.Sound) (r : Request) :
    (s.handle files r).files.Sound := by
  have unchanged {o : Outcome} (same : o.files = files) : o.files.Sound := same ▸ sound
  cases r with
  | openFile path access =>
    show (s.openFile files path access).files.Sound
    unfold openFile
    cases opened : files.openFile s.current access (s.resolve path) with
    | error e => exact sound
    | ok x => exact sound.openFile opened
  | write h offset data => exact sound_write s sound h offset data
  | makeDirectory path => exact sound_change sound fun _ => sound.mkdir
  | removeDirectory path => exact sound_change sound fun _ => sound.rmdir
  | remove path => exact sound_change sound fun _ => sound.unlink
  | rename old new => exact sound_change sound fun _ => sound.rename
  | _ =>
    -- no other request changes the files
    refine unchanged ?_
    unfold handle openDirectory readDirectory read readBy close statHandle stat
    grind [answer]

/-- What has become of a session and the files when requests have been answered, each from the
files as the one before left them. -/
def run (s : Server) (files : FileSystem) : List Request → Server × FileSystem
  | [] => (s, files)
  | r :: rest => run (s.handle files r).server (s.handle files r).files rest

/-- **So a whole session does.** -/
theorem sound_run (s : Server) (sound : files.Sound) (asked : List Request) :
    (s.run files asked).2.Sound := by
  induction asked generalizing s files with
  | nil => exact sound
  | cons r rest ih => exact ih _ (s.sound_handle sound r)

end ShellGateway.Sftp.Server
