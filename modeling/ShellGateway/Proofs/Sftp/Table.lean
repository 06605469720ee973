import ShellGateway.Proofs.Text.Digits
import ShellGateway.Sftp.Server

/-!
# What requests do to the table of handles

A file transfer session keeps one thing between requests, the table of what its
handles stand for. `Server.Change` lists all that a request can do to it, along with
the answer: nothing, or one of giving out a handle, marking a directory as listed,
noting a refused write, and taking a handle back. `Server.change_handle` says that
the list is complete.

A request that goes by a handle which is not in the table fails, and changes nothing
(`Server.handle_of_unknown`).
-/

namespace ShellGateway.Sftp

open Files

/-- The handle that a request goes by. -/
def Request.handle? : Request → Option String
  | readDirectory handle | read handle _ _ | write handle _ _ | close handle
  | statHandle handle => some handle
  | _ => none

/-- The request neither takes a handle back nor lists a directory. -/
def Request.isPlain : Request → Bool
  | close _ | readDirectory _ => false
  | _ => true

/-- The handle that an answer gives out. -/
def Reply.handle? : Reply → Option String
  | handle h => some h
  | _ => none

/-- What was opened: which file, or the directory of which path. -/
inductive Subject where
  | file (node : NodeId) (access : FileSystem.Access)
  | directory (path : String)
  deriving DecidableEq

/-- What a handle stands for, whatever has been done through it. -/
def Entry.subject : Entry → Subject
  | file f => .file f.node f.access
  | directory d => .directory d.path

/-- Handles are told apart by their numbers. -/
theorem handleName_inj {m n : Nat} : handleName m = handleName n ↔ m = n := by
  constructor
  · intro h
    have texts := congrArg String.toList h
    rw [handleName, handleName, String.toList_append, String.toList_append] at texts
    exact Digit.decimal_inj.mp (String.toList_inj.mp (List.append_cancel_left texts))
  · rintro rfl
    rfl

namespace Server

/-- A request opens a file or a directory. -/
inductive Opens (s : Server) (files : FileSystem) : Request → Entry → Prop where
  | file {path : String} {access : FileSystem.Access} {files' : FileSystem} {node : NodeId}
      (opened : files.openFile s.current access (s.resolve path) = .ok (files', node)) :
      Opens s files (.openFile path access) (.file { node, access })
  | directory {path : String} {a : FileSystem.Attributes}
      (found : files.stat s.current true (s.resolve path) = .ok a) (kind : a.kind = .directory) :
      Opens s files (.openDirectory path) (.directory { path := s.resolve path })

/-- All that a request can do to the table, with the answer it gets. -/
inductive Change (s : Server) (files : FileSystem) : Request → Reply → Server → Prop where
  /-- Nothing. -/
  | nothing (r : Request) (reply : Reply) (quiet : reply.handle? = none)
      (plain : r.isPlain = true) : Change s files r reply s
  /-- A handle is given out for what was opened. -/
  | issued (r : Request) (entry : Entry) (opens : s.Opens files r entry) :
      Change s files r (.handle (handleName (s.issued + 1))) (s.issue entry).1
  /-- A directory is listed, or cannot be. -/
  | listed (h : String) {d : OpenDirectory} (found : s.handles.get? h = some (.directory d))
      (unlisted : d.listed = false) (reply : Reply) (quiet : reply.handle? = none) :
      Change s files (.readDirectory h) reply (s.update h (.directory { d with listed := true }))
  /-- A directory that was listed is listed no more. -/
  | relisted (h : String) {d : OpenDirectory} (found : s.handles.get? h = some (.directory d))
      (listed : d.listed = true) : Change s files (.readDirectory h) (.status .eof) s
  /-- What is no directory is not listed. -/
  | mislisted (h : String) (other : ∀ d, s.handles.get? h ≠ some (.directory d)) :
      Change s files (.readDirectory h) (.status .failure) s
  /-- A refused write is noted, or its note is taken off. -/
  | noted (h : String) (offset : Nat) (data : Bytes) {file : OpenFile}
      (found : s.handles.get? h = some (.file file)) (refused : Option Fault) (code : Status) :
      Change s files (.write h offset data) (.status code)
        (s.update h (.file { file with refused }))
  /-- A handle is taken back. -/
  | closed (h : String) {entry : Entry} (found : s.handles.get? h = some entry) (code : Status) :
      Change s files (.close h) (.status code) { s with handles := s.handles.erase h }
  /-- What is not in use is not taken back. -/
  | misclosed (h : String) (missing : s.handles.get? h = none) :
      Change s files (.close h) (.status .failure) s

variable {s : Server} {files : FileSystem} {h : String}

/-- The open file of a handle. -/
theorem file?_eq_some {file : OpenFile} :
    s.file? h = some file ↔ s.handles.get? h = some (.file file) := by
  unfold file?
  cases s.handles.get? h with
  | none => simp
  | some entry => cases entry <;> simp

/-- A request that can do nothing to the table does nothing to it. -/
theorem change_answer {r : Request} {reply : Reply} (plain : r.isPlain = true)
    (quiet : reply.handle? = none) (files' : FileSystem) :
    s.Change files r (s.answer files' reply).reply (s.answer files' reply).server :=
  .nothing r reply quiet plain

theorem change_openDirectory (path : String) :
    s.Change files (.openDirectory path) (s.openDirectory files path).reply
      (s.openDirectory files path).server := by
  unfold openDirectory
  dsimp only
  cases hs : files.stat s.current true (s.resolve path) with
  | error e => exact change_answer rfl rfl files
  | ok a =>
    dsimp only
    by_cases hk : a.kind = .directory
    · rw [if_pos hk]
      exact .issued _ _ (.directory hs hk)
    · rw [if_neg hk]
      exact change_answer rfl rfl files

theorem change_readDirectory (h : String) :
    s.Change files (.readDirectory h) (s.readDirectory files h).reply
      (s.readDirectory files h).server := by
  unfold readDirectory
  cases hh : s.handles.get? h with
  | none => exact .mislisted h fun d hd => by cases hh.symm.trans hd
  | some entry =>
    cases entry with
    | file file => exact .mislisted h fun d hd => by cases hh.symm.trans hd
    | directory d =>
      dsimp only
      cases hd : d.listed with
      | true => exact .relisted h hh hd
      | false =>
        simp only [Bool.false_eq_true, if_false]
        cases files.list (s.update h _).current d.path with
        | error e => exact .listed h hh hd _ rfl
        | ok entries => exact .listed h hh hd _ rfl

theorem change_openFile (path : String) (access : FileSystem.Access) :
    s.Change files (.openFile path access) (s.openFile files path access).reply
      (s.openFile files path access).server := by
  unfold openFile
  cases ho : files.openFile s.current access (s.resolve path) with
  | error e => exact change_answer rfl rfl files
  | ok opened => exact .issued _ _ (.file ho)

theorem change_read (h : String) (offset count : Nat) :
    s.Change files (.read h offset count) (s.read files h offset count).reply
      (s.read files h offset count).server := by
  have same : ∀ reply : Reply, reply.handle? = none →
      s.Change files (.read h offset count) (s.answer files reply).reply
        (s.answer files reply).server :=
    fun reply quiet => change_answer rfl quiet files
  unfold read readBy
  split
  · exact same _ rfl
  · split
    · exact same _ rfl
    · split
      · exact same _ rfl
      · split
        · exact same _ rfl
        · split
          · exact same _ rfl
          · exact same _ rfl
          · exact same _ rfl

theorem change_write (h : String) (offset : Nat) (data : Bytes) :
    s.Change files (.write h offset data) (s.write files h offset data).reply
      (s.write files h offset data).server := by
  have same : ∀ (files' : FileSystem) (reply : Reply), reply.handle? = none →
      s.Change files (.write h offset data) (s.answer files' reply).reply
        (s.answer files' reply).server :=
    fun files' reply quiet => change_answer rfl quiet files'
  unfold write
  cases hf : s.file? h with
  | none => exact same files _ rfl
  | some file =>
    have found := file?_eq_some.mp hf
    dsimp only
    split
    · exact same files _ rfl
    · split
      · exact same files _ rfl
      · split
        · exact .noted h offset data found none _
        · split
          · exact same _ _ rfl
          · exact .noted h offset data found (some _) _
          · exact same _ _ rfl

theorem change_close (h : String) :
    s.Change files (.close h) (s.close files h).reply (s.close files h).server := by
  unfold close
  cases hh : s.handles.get? h with
  | none => exact .misclosed h hh
  | some entry =>
    cases entry with
    | directory d => exact .closed h hh _
    | file file =>
      cases hr : file.refused with
      | none =>
        simp only [hr]
        exact .closed h hh _
      | some e =>
        simp only [hr]
        exact .closed h hh _

theorem change_stat {r : Request} (plain : r.isPlain = true) (path : String) (follow : Bool) :
    s.Change files r (s.stat files path follow).reply (s.stat files path follow).server := by
  unfold stat
  split
  · exact change_answer plain rfl files
  · exact change_answer plain rfl files

theorem change_change {r : Request} (plain : r.isPlain = true)
    (result : Except Fault FileSystem) :
    s.Change files r (s.change files result).reply (s.change files result).server := by
  unfold change
  split
  · exact change_answer plain rfl _
  · exact change_answer plain rfl files

/-- **Every request does one of the listed things to the table.** -/
theorem change_handle (s : Server) (files : FileSystem) (r : Request) :
    s.Change files r (s.handle files r).reply (s.handle files r).server := by
  cases r with
  | openDirectory path => exact change_openDirectory path
  | readDirectory h => exact change_readDirectory h
  | openFile path access => exact change_openFile path access
  | read h offset count => exact change_read h offset count
  | write h offset data => exact change_write h offset data
  | close h => exact change_close h
  | stat path follow => exact change_stat rfl _ _
  | statHandle h =>
    show s.Change files _ (s.statHandle files h).reply (s.statHandle files h).server
    unfold statHandle
    split
    · exact change_answer rfl rfl files
    · exact change_stat rfl _ _
    · split
      · exact change_answer rfl rfl files
      · exact change_answer rfl rfl files
  | makeDirectory | removeDirectory | remove | rename => exact change_change rfl _
  | realPath | other => exact change_answer rfl rfl files

/-- The place that paths start from stays. -/
theorem Change.place {r : Request} {reply : Reply} {t : Server}
    (change : s.Change files r reply t) :
    t.root = s.root ∧ t.current = s.current := by
  cases change <;> exact ⟨rfl, rfl⟩

/-- **A request that goes by an unknown handle fails, and changes nothing.** -/
theorem handle_of_unknown {r : Request} (hr : r.handle? = some h)
    (unknown : s.handles.get? h = none) :
    s.handle files r = s.answer files (.status .failure) := by
  have noFile : s.file? h = none := by
    unfold file?
    rw [unknown]
  cases r with
  | readDirectory =>
    obtain rfl := Option.some.inj hr
    simp only [handle, readDirectory, unknown]
  | read =>
    obtain rfl := Option.some.inj hr
    simp only [handle, read, readBy, noFile]
  | write =>
    obtain rfl := Option.some.inj hr
    simp only [handle, write, noFile]
  | close =>
    obtain rfl := Option.some.inj hr
    simp only [handle, close, unknown]
  | statHandle =>
    obtain rfl := Option.some.inj hr
    simp only [handle, statHandle, unknown]
  | _ => cases hr

end Server

end ShellGateway.Sftp
