import Mathlib
import ShellGateway.Proofs.Sftp.Soundness

/-!
# Canonical paths sent back

A client that asks for the canonical path of a file sends it back in later requests. While the
files stay as they are it is to lead to the same place (`SentBack.location`), and to be its own
canonical path (`SentBack.again`). What is asked for is then answered in the same way, except
where the answer depends on how a path ends and not on where it leads: the canonical path of a
link is that of what the link points to, so who means the link itself is told about another
file, and names are neither taken from `.` and `..` nor given to them (`Errand.Suits`).

A path that leads nowhere is its own answer. It is resolved again when it is sent back, which
changes nothing if it starts at the root (`Server.IsSettled`). But the root of a session may be
relative, and then it is put in front once more each time (`Server.realPath_grows`), so that the
answer means another place than the path that it was given for (`missing_path_moves`).
`canonical_path_sent_back` says for which paths the answer can be sent back: those, and no
others, that are settled or lead somewhere.
-/

namespace ShellGateway.Sftp

open Files FileSystem Path

/-! ## Requests along a path -/

/-- What a client asks for along one path. -/
inductive Errand where
  | realPath
  | openDirectory
  | openFile (access : FileSystem.Access)
  | stat (follow : Bool)
  | makeDirectory
  | removeDirectory
  | remove
  | renameFrom (new : String)
  | renameTo (old : String)
  deriving DecidableEq, Repr

namespace Errand

/-- The request when the path has been named. -/
def along (path : String) : Errand → Request
  | realPath => .realPath path
  | openDirectory => .openDirectory path
  | openFile access => .openFile path access
  | stat follow => .stat path follow
  | makeDirectory => .makeDirectory path
  | removeDirectory => .removeDirectory path
  | remove => .remove path
  | renameFrom new => .rename path new
  | renameTo old => .rename old path

/-- Whether the canonical path will do in place of the path. It will for all that is about the
place that the path leads to. The rest is about the last component: to look at a link or to
remove it, one must name the link; and directories are removed, and files moved, by their
names, not as `.` or `..`. -/
def Suits (files : FileSystem) (at' : Trail) (path : String) : Errand → Prop
  | realPath | openDirectory | openFile _ | stat true | makeDirectory => True
  | stat false | remove => ¬ files.EndsInLink at' path
  | removeDirectory | renameFrom _ | renameTo _ =>
    ¬ files.EndsInLink at' path ∧ (splitLast path).2 ≠ .dot ∧ (splitLast path).2 ≠ .dotDot

end Errand

/-- Neither the client nor the files show which of the two came about. -/
structure Outcome.Agrees (o o' : Outcome) : Prop where
  reply : o.reply = o'.reply
  files : o.files = o'.files

/-- What becomes of a path when it is sent in place of another. -/
structure SentBack (s : Server) (files : FileSystem) (path back : String) : Prop where
  /-- It is its own canonical path. -/
  again : s.realPath files back = back
  /-- It leads to the same place, or nowhere for the same reason. -/
  location : files.resolve s.current true (s.resolve back) =
    files.resolve s.current true (s.resolve path)
  listing : files.list s.current (s.resolve back) = files.list s.current (s.resolve path)
  /-- No link is in its last place. -/
  direct : ∀ canonical, files.canonical s.current (s.resolve path) = .ok canonical →
    files.resolve s.current false (s.resolve back) =
      files.resolve s.current true (s.resolve path)
  /-- In place of a path without a canonical one it makes no difference at all. -/
  missing : ∀ e, files.canonical s.current (s.resolve path) = .error e →
    ∀ errand : Errand, s.handle files (errand.along back) = s.handle files (errand.along path)
  /-- In place of any path it comes to the same, if the errand suits the path. -/
  same : ∀ errand : Errand, errand ≠ .openDirectory →
    errand.Suits files s.current (s.resolve path) →
    s.handle files (errand.along back) = s.handle files (errand.along path)
  /-- An open directory is kept under the path that it was opened by, and that is all. -/
  opened : (s.handle files (.openDirectory back)).Agrees (s.handle files (.openDirectory path))

namespace Server

variable {s : Server} {files : FileSystem} {path back : String} {found : Trail} {e e' : Fault}

/-- A path that is no other name of the root is put behind it. -/
theorem resolve_of_named (named : path ≠ "" ∧ path ≠ ".") :
    s.resolve path = join s.root path := by
  have filled : path.isEmpty = false := by
    rw [← Bool.not_eq_true, String.isEmpty_iff]
    exact named.1
  rw [resolve, filled, if_neg (by simpa using named.2)]

/-- An absolute path is used as given. -/
theorem resolve_of_isAbsolute (absolute : isAbsolute path = true) : s.resolve path = path := by
  rw [resolve_of_named (named_of_isAbsolute absolute), join, if_pos absolute]

theorem isAbsolute_resolve (h : isAbsolute s.root = true ∨ isAbsolute path = true) :
    isAbsolute (s.resolve path) = true := by
  cases absolute : isAbsolute path with
  | true => rw [resolve_of_isAbsolute absolute, absolute]
  | false =>
    have root : isAbsolute s.root = true := h.resolve_right (by simp [absolute])
    rw [resolve]
    split
    · exact root
    · rw [isAbsolute_join (named_of_isAbsolute root).1 absolute, root]

/-- It makes no difference to a path whether it is resolved once or twice: the root of the
session is absolute or the path is, or the root is nothing to put in front. -/
def IsSettled (s : Server) (path : String) : Prop :=
  isAbsolute s.root = true ∨ isAbsolute path = true ∨ s.root = "" ∨
    s.root = "." ∧ (path = "" ∨ path = ".")

/-- A path that is another name of the root stands for it. -/
theorem resolve_of_not_named (unnamed : ¬ (path ≠ "" ∧ path ≠ ".")) : s.resolve path = s.root := by
  have other : path = "" ∨ path = "." := by
    rw [not_and_or, not_ne_iff, not_ne_iff] at unnamed
    exact unnamed
  obtain rfl | rfl := other <;> rfl

theorem resolve_resolve (settled : s.IsSettled path) :
    s.resolve (s.resolve path) = s.resolve path := by
  obtain root | absolute | root | ⟨root, unnamed⟩ := settled
  · exact resolve_of_isAbsolute (isAbsolute_resolve (.inl root))
  · exact resolve_of_isAbsolute (isAbsolute_resolve (.inr absolute))
  · by_cases named : path ≠ "" ∧ path ≠ "."
    · have kept : s.resolve path = path := by
        rw [resolve_of_named named, root, join_empty]
      rw [kept, kept]
    · rw [resolve_of_not_named named, root, resolve_of_not_named (by simp), root]
  · have given : s.resolve path = "." := by
      rw [resolve_of_not_named (by tauto), root]
    rw [given, resolve_of_not_named (by simp), root]

/-- **Each time that it is resolved, any other path gets longer**, and stays relative. -/
theorem length_resolve (unsettled : ¬ s.IsSettled path) :
    isAbsolute (s.resolve path) = false ∧
      (s.resolve path).length < (s.resolve (s.resolve path)).length := by
  have length {t : String} (filled : t ≠ "") : 0 < t.length :=
    Nat.pos_of_ne_zero fun zero => filled (String.length_eq_zero_iff.mp zero)
  obtain ⟨root, unsettled⟩ := not_or.mp unsettled
  obtain ⟨relative, unsettled⟩ := not_or.mp unsettled
  obtain ⟨filled, unsettled⟩ := not_or.mp unsettled
  have root : isAbsolute s.root = false := Bool.eq_false_of_not_eq_true root
  have relative : isAbsolute path = false := Bool.eq_false_of_not_eq_true relative
  -- the root is put in front again, unless the path has become a name of the root
  have again {r : String} (named : r ≠ "" ∧ r ≠ ".") (relative : isAbsolute r = false) :
      r.length < (s.resolve r).length := by
    have := length_join s.root relative
    have := length filled
    rw [resolve_of_named named]
    omega
  by_cases named : path ≠ "" ∧ path ≠ "."
  · have joined : isAbsolute (join s.root path) = false :=
      (isAbsolute_join filled relative).trans root
    have long : 2 ≤ (join s.root path).length := by
      have := length_join s.root relative
      have := length filled
      have := length named.1
      omega
    rw [resolve_of_named named]
    refine ⟨joined, again ⟨?_, ?_⟩ joined⟩
    all_goals
      intro same
      rw [same] at long
      revert long
      decide
  · have other : s.root ≠ "." := fun dot => unsettled ⟨dot, by tauto⟩
    rw [resolve_of_not_named named]
    exact ⟨root, again ⟨filled, other⟩ root⟩

theorem realPath_of_resolve (h : files.resolve s.current true (s.resolve path) = .ok found)
    (short : found.path.utf8ByteSize < lengthLimit) : s.realPath files path = found.path := by
  rw [realPath, canonical_eq_ok_iff.mpr ⟨found, h, short, rfl⟩]

theorem change_error (same : Status.ofFault e = Status.ofFault e') :
    s.change files (.error e) = s.change files (.error e') := by
  show s.answer files (.status _) = s.answer files (.status _)
  rw [same]

/-- A path counts for what it resolves to. -/
theorem handle_congr (files : FileSystem) (same : s.resolve back = s.resolve path)
    (errand : Errand) :
    s.handle files (errand.along back) = s.handle files (errand.along path) := by
  cases errand <;>
    simp only [Errand.along, handle, realPath, openDirectory, openFile, same]

section

variable (sound : files.Sound)
  (start : isAbsolute (s.resolve path) = true ∨ files.Reaches s.current)
  (h : files.resolve s.current true (s.resolve path) = .ok found)
  (short : found.path.utf8ByteSize < lengthLimit)

include sound start h short

/-- The canonical path is used as given, and leads to the place whether links are followed or
not. -/
theorem resolve_back (follow : Bool) :
    s.resolve found.path = found.path ∧
      files.resolve s.current follow found.path = .ok found :=
  ⟨resolve_of_isAbsolute (isAbsolute_absolute _),
    resolve_path sound (reaches_of_resolve sound start h) short s.current follow⟩

theorem agrees_openDirectory :
    (s.openDirectory files found.path).Agrees (s.openDirectory files path) := by
  obtain ⟨given, leads⟩ := resolve_back sound start h short true
  have same : files.stat s.current true found.path =
      files.stat s.current true (s.resolve path) := by
    rw [FileSystem.stat, FileSystem.stat, leads, h]
  unfold openDirectory
  rw [given]
  dsimp only
  rw [same]
  cases files.stat s.current true (s.resolve path) with
  | error e => exact ⟨rfl, rfl⟩
  | ok attributes =>
    dsimp only
    split
    · exact ⟨rfl, rfl⟩
    · exact ⟨rfl, rfl⟩

theorem openFile_back (access : FileSystem.Access) :
    s.openFile files found.path access = s.openFile files path access := by
  obtain ⟨given, leads⟩ := resolve_back sound start h short true
  have absolute : isAbsolute found.path = true := isAbsolute_absolute _
  unfold openFile
  rw [given]
  cases exclusive : access.exclusive with
  | false =>
    rw [openFile_of_resolve sound start h exclusive,
      openFile_of_resolve sound (.inl absolute) leads exclusive]
  | true =>
    -- both are refused, and no client is told more than that
    obtain ⟨e, mem, refused⟩ := openFile_exclusive sound start h exclusive
    obtain ⟨e', mem', refused'⟩ := openFile_exclusive sound (.inl absolute) leads exclusive
    have failure : ∀ e ∈ [Fault.invalid, .isADirectory, .alreadyExists],
        Status.ofFault e = .failure := by decide
    rw [refused, refused']
    dsimp only
    rw [Reply.fault, Reply.fault, failure e mem, failure e' mem']

theorem makeDirectory_back :
    files.mkdir s.current (s.resolve found.path) = files.mkdir s.current (s.resolve path) := by
  obtain ⟨given, leads⟩ := resolve_back sound start h short true
  have absolute : isAbsolute found.path = true := isAbsolute_absolute _
  rw [given, mkdir_of_resolve sound start h, mkdir_of_resolve sound (.inl absolute) leads]

omit short in
/-- A file is moved to the same name, or refused in the same way. -/
theorem renameTo_back {parent : Trail} {last last' : Last}
    (here : files.resolveParent s.current (s.resolve path) = .ok (parent, last))
    (there : files.resolveParent s.current found.path = .ok (parent, last'))
    (alike : files.Alike parent last last') (old : String) :
    s.change files (files.rename s.current old found.path) =
      s.change files (files.rename s.current old (s.resolve path)) := by
  have reached := reaches_of_resolve sound start h
  have clean := (checkText_eq_ok (resolve_eq_ok_iff.mp h).1).1
  have clean' : holdsNul found.path = false :=
    holdsNul_absolute fun n mem => (reached.isName n mem).toIsComponent
  rcases rename_to_path here there alike clean clean' old with same | ⟨⟨e, mem, refused⟩, refused'⟩
  · rw [same]
  · have failure : ∀ e ∈ [Fault.invalid, .notEmpty, .isADirectory, .notADirectory],
        Status.ofFault e = .failure := by decide
    rw [refused, refused']
    exact change_error (failure e mem)

/-- **Along the canonical path every errand that suits the path comes to the same.** -/
theorem handle_back (errand : Errand) (other : errand ≠ .openDirectory)
    (suits : errand.Suits files s.current (s.resolve path)) :
    s.handle files (errand.along found.path) = s.handle files (errand.along path) := by
  obtain ⟨given, leads⟩ := resolve_back sound start h short true
  have direct := (resolve_back sound start h short false).2
  cases errand with
  | realPath =>
    show s.answer files (.path _) = s.answer files (.path _)
    rw [realPath_of_resolve h short, realPath_of_resolve (given.symm ▸ leads) short]
  | openDirectory => exact absurd rfl other
  | openFile access => exact openFile_back sound start h short access
  | stat follow =>
    show s.stat files (s.resolve found.path) follow = s.stat files (s.resolve path) follow
    have same : files.stat s.current follow (s.resolve found.path) =
        files.stat s.current follow (s.resolve path) := by
      rw [FileSystem.stat, FileSystem.stat, given]
      cases follow with
      | true => rw [leads, h]
      | false => rw [direct, resolve_of_not_endsInLink sound start h suits false]
    rw [Server.stat, Server.stat, same]
  | makeDirectory => exact congrArg (s.change files) (makeDirectory_back sound start h short)
  | remove =>
    refine congrArg (s.change files) ?_
    rw [given]
    exact unlink_path sound start h suits short
  | removeDirectory =>
    obtain ⟨parent, last, last', here, there, alike⟩ :=
      exists_alike sound start h suits.1 short suits.2.1 suits.2.2
    refine congrArg (s.change files) ?_
    rw [given]
    exact rmdir_path here there alike
  | renameFrom new =>
    obtain ⟨parent, last, last', here, there, alike⟩ :=
      exists_alike sound start h suits.1 short suits.2.1 suits.2.2
    refine congrArg (s.change files) ?_
    rw [given]
    exact rename_from_path here there alike (s.resolve new)
  | renameTo old =>
    obtain ⟨parent, last, last', here, there, alike⟩ :=
      exists_alike sound start h suits.1 short suits.2.1 suits.2.2
    show s.change files (files.rename s.current (s.resolve old) (s.resolve found.path)) = _
    rw [given]
    exact renameTo_back sound start h here there alike (s.resolve old)

end

/-- A path that has no canonical one is answered with what it resolves to. -/
theorem realPath_of_error (missing : files.canonical s.current (s.resolve path) = .error e) :
    s.realPath files path = s.resolve path := by
  rw [realPath, missing]

/-- **The answer for a path that leads nowhere is not stable if the root is relative**: sent back
it means a path that has the root in front twice, and it is answered with that. -/
theorem realPath_grows (unsettled : ¬ s.IsSettled path)
    (missing : files.canonical s.current (s.resolve path) = .error e)
    (missing' : files.canonical s.current (s.resolve (s.resolve path)) = .error e') :
    s.realPath files path = s.resolve path ∧
      s.realPath files (s.realPath files path) = s.resolve (s.resolve path) ∧
      (s.realPath files path).length < (s.realPath files (s.realPath files path)).length := by
  rw [realPath_of_error missing, realPath_of_error missing']
  exact ⟨rfl, rfl, (length_resolve unsettled).2⟩

/-- Whatever it leads to when it is sent back, it is not its own canonical path. -/
theorem realPath_resolve_ne (unsettled : ¬ s.IsSettled path) :
    s.realPath files (s.resolve path) ≠ s.resolve path := by
  obtain ⟨relative, longer⟩ := length_resolve unsettled
  intro same
  cases asked : files.canonical s.current (s.resolve (s.resolve path)) with
  | error e =>
    rw [realPath_of_error asked] at same
    exact Nat.lt_irrefl _ (same ▸ longer)
  | ok canonical =>
    obtain ⟨found, -, -, rfl⟩ := canonical_eq_ok_iff.mp asked
    have answered : s.realPath files (s.resolve path) = found.path := by rw [realPath, asked]
    have absolute : isAbsolute (s.resolve path) = true := by
      rw [← same, answered]
      exact isAbsolute_absolute _
    exact Bool.false_ne_true (relative.symm.trans absolute)

end Server

/-! ## Sending a canonical path back -/

section

variable {s : Server} {files : FileSystem} {path : String}

/-- A settled path that leads nowhere can be sent back: its answer resolves as the path does. -/
theorem sentBack_of_settled {e : Fault} (settled : s.IsSettled path)
    (asked : files.canonical s.current (s.resolve path) = .error e) :
    SentBack s files path (s.realPath files path) := by
  have given : s.resolve (s.resolve path) = s.resolve path := Server.resolve_resolve settled
  rw [Server.realPath_of_error asked]
  have same := Server.handle_congr files given
  constructor
  case again => rw [Server.realPath_of_error (given.symm ▸ asked), given]
  case location => rw [given]
  case listing => rw [given]
  case direct =>
    intro canonical found
    cases asked.symm.trans found
  case missing => exact fun _ _ => same
  case same => exact fun errand _ _ => same errand
  case opened => exact same .openDirectory ▸ ⟨rfl, rfl⟩

/-- A path that leads somewhere can be sent back. -/
theorem sentBack_of_canonical {canonical : String} (sound : files.Sound)
    (start : isAbsolute (s.resolve path) = true ∨ files.Reaches s.current)
    (asked : files.canonical s.current (s.resolve path) = .ok canonical) :
    SentBack s files path (s.realPath files path) := by
  obtain ⟨found, h, short, rfl⟩ := canonical_eq_ok_iff.mp asked
  obtain ⟨given, leads⟩ := Server.resolve_back sound start h short true
  have direct := (Server.resolve_back sound start h short false).2
  rw [Server.realPath_of_resolve h short]
  constructor
  case again => exact Server.realPath_of_resolve (given.symm ▸ leads) short
  case location => rw [given, leads, h]
  case listing => rw [given, list, list, leads, h]
  case direct => exact fun _ _ => by rw [given, direct, h]
  case missing =>
    intro e missing
    cases asked.symm.trans missing
  case same => exact Server.handle_back sound start h short
  case opened => exact Server.agrees_openDirectory sound start h short

end

/-- **A canonical path can be sent back exactly if the path that it was asked for is settled or
leads somewhere**: then it leads to the same place, and is its own canonical path. -/
theorem canonical_path_sent_back (s : Server) (files : FileSystem) (path : String)
    (sound : files.Sound)
    (start : isAbsolute (s.resolve path) = true ∨ files.Reaches s.current) :
    SentBack s files path (s.realPath files path) ↔
      s.IsSettled path ∨
        ∃ canonical, files.canonical s.current (s.resolve path) = .ok canonical := by
  cases asked : files.canonical s.current (s.resolve path) with
  | ok canonical =>
    exact ⟨fun _ => .inr ⟨canonical, rfl⟩, fun _ => sentBack_of_canonical sound start asked⟩
  | error e =>
    constructor
    · intro sentBack
      by_contra neither
      have again := sentBack.again
      rw [Server.realPath_of_error asked] at again
      exact Server.realPath_resolve_ne (not_or.mp neither).1 again
    · rintro (settled | ⟨canonical, found⟩)
      · exact sentBack_of_settled settled asked
      · cases found

/-- A directory with a file and a link to it. -/
def withLink : FileSystem where
  nodes := ⟨[(0, .directory ⟨[("d", 1)]⟩ newDirectoryMode),
    (1, .directory ⟨[("a", 2), ("l", 3)]⟩ newDirectoryMode), (2, .file [7] newFileMode),
    (3, .link "a")]⟩
  next := 4

theorem sound_withLink : withLink.Sound := by
  refine sound_of_fits (by decide) (by decide) fun entry mem => ?_
  rintro target link
  have pointed : target = "a" := by
    simp only [withLink, List.mem_cons, List.not_mem_nil, or_false] at mem
    rcases mem with rfl | rfl | rfl | rfl <;> cases link
    rfl
  rw [pointed]
  decide +kernel

/-- The link, asked for in a session that starts in the directory, and in one whose root is
relative; and in that one, a path that leads nowhere. -/
theorem canonical_path_sent_back_link :
    withLink.Sound ∧ withLink.Reaches [] ∧
      SentBack { root := "/d" } withLink "l" (Server.realPath { root := "/d" } withLink "l") ∧
      withLink.canonical [] "d/l" = .ok "/d/a" ∧
      SentBack { root := "d" } withLink "l" (Server.realPath { root := "d" } withLink "l") ∧
      ¬ SentBack { root := "d" } withLink "b" (Server.realPath { root := "d" } withLink "b") := by
  have there : withLink.canonical [] "d/l" = .ok "/d/a" := by cbv
  have resolved : Server.resolve { root := "d" } "l" = "d/l" := by decide +kernel
  refine ⟨sound_withLink, .root, ?_, there, ?_, ?_⟩
  · exact (canonical_path_sent_back _ _ _ sound_withLink (.inr .root)).mpr (.inl (.inl (by decide)))
  · exact (canonical_path_sent_back _ _ _ sound_withLink (.inr .root)).mpr
      (.inr ⟨"/d/a", resolved.symm ▸ there⟩)
  · intro sentBack
    have found : withLink.canonical [] (Server.resolve { root := "d" } "b") = .error .notFound := by
      cbv
    obtain settled | ⟨canonical, leads⟩ :=
      (canonical_path_sent_back _ _ _ sound_withLink (.inr .root)).mp sentBack
    · revert settled
      unfold Server.IsSettled
      decide
    · cases found.symm.trans leads

/-- **The answer for a path that leads nowhere means another place**: the root is relative, and
is put in front of the answer as it was put in front of the path. What can be made along the path
cannot be made along the answer. -/
theorem missing_path_moves :
    withLink.Sound ∧ withLink.Reaches [] ∧
      Server.realPath { root := "d" } withLink "b" = "d/b" ∧
      Server.realPath { root := "d" } withLink "d/b" = "d/d/b" ∧
      (Server.handle { root := "d" } withLink (.makeDirectory "b")).reply = .status .ok ∧
      (Server.handle { root := "d" } withLink (.makeDirectory "d/b")).reply =
        .status .noSuchFile := by
  refine ⟨sound_withLink, .root, by cbv, by cbv, by cbv, by cbv⟩

/-- The canonical path of a link is not the link's: looked at without following links, one is a
link and the other a file, and each can be removed without the other. -/
example :
    Server.realPath { root := "/d" } withLink "l" = "/d/a" ∧
      (Server.handle { root := "/d" } withLink (.stat "l" false)).reply =
        .attributes ⟨.link, 1, 0o120777⟩ ∧
      (Server.handle { root := "/d" } withLink (.stat "/d/a" false)).reply =
        .attributes ⟨.file, 1, 0o100644⟩ ∧
      (Server.handle { root := "/d" } withLink (.remove "l")).files.items "/d" =
        [.file ["a"] [7]] ∧
      (Server.handle { root := "/d" } withLink (.remove "/d/a")).files.items "/d" =
        [.link ["l"] "a"] := by
  refine ⟨by cbv, by cbv, by cbv, by cbv, by cbv⟩

end ShellGateway.Sftp
