import ShellGateway.Proofs.Files.Contents
import ShellGateway.Proofs.Sftp.Exchange
import ShellGateway.Proofs.Sftp.Table

/-!
# What becomes of writes

A session writes to an open file by its handle. `Wrote` lists what a write can come to:
it is refused, it has no bytes, it is laid over the contents of the file, or it is
acknowledged although the file will not have its last piece, in which case the refusal
is kept with the handle and reported in place of the next write, or by the request that
closes the handle. `Server.wrote` says that the list is complete.

So the answers taken together tell what is in the file: when all writes by a handle and
its closing are acknowledged, and nobody else has written to the file, its contents are
what the writes leave in an empty file (`Server.written`). They are acknowledged when
all of them end within the limit of the file system (`Server.taken`).
-/

namespace ShellGateway.Sftp

open Files
open FileSystem (sizeLimit)

/-! ## A handle that stays in use -/

/-- The write that a request asks for by a handle. -/
def Request.write? (h : String) : Request → Option Write
  | write h' offset data => if h' = h then some (offset, data) else none
  | _ => none

theorem Request.write?_eq_some {h : String} {r : Request} {offset : Nat} {data : Bytes} :
    r.write? h = some (offset, data) ↔ r = .write h offset data := by
  unfold write?
  split
  case h_1 h' _ _ =>
    by_cases same : h' = h
    · simp [same]
    · simp [same]
  case h_2 other =>
    constructor
    · intro some
      cases some
    · rintro rfl
      exact absurd rfl (other _ _ _)

namespace Server

variable {s t : Server} {files : FileSystem} {h : String} {file : OpenFile}

/-- A handle stands for an open file, and will not be given out again. -/
structure Keeps (s : Server) (h : String) (file : OpenFile) : Prop where
  entry : s.file? h = some file
  given : ∃ k ≤ s.issued, handleName k = h

theorem file?_update (s : Server) (h : String) (file : OpenFile) :
    (s.update h (.file file)).file? h = some file :=
  file?_eq_some.mpr (Dictionary.get?_insert_self _ _ _)

theorem Keeps.update (k : s.Keeps h file) (file' : OpenFile) :
    (s.update h (.file file')).Keeps h file' :=
  ⟨file?_update s h file', k.given⟩

/-- What was put under another handle is no concern of this one. -/
theorem file?_of_other {t : Server} {h' : String} {entry : Entry} (other : h ≠ h')
    (put : t.handles = s.handles.insert h' entry) : t.file? h = s.file? h := by
  unfold file?
  rw [put, Dictionary.get?_insert, if_neg other]

/-- **A handle is kept through every request that does not close it**, with what it stands
for; a refusal comes to it or goes only by a write. -/
theorem Keeps.step (k : s.Keeps h file) (files : FileSystem) {r : Request}
    (unclosed : r ≠ .close h) :
    ∃ refused, (s.handle files r).server.Keeps h { file with refused } ∧
      (r.write? h = none → refused = file.refused) := by
  have change := s.change_handle files r
  have found := file?_eq_some.mp k.entry
  generalize (s.handle files r).reply = reply at change
  generalize (s.handle files r).server = t at change ⊢
  cases change with
  | nothing => exact ⟨file.refused, k, fun _ => rfl⟩
  | issued r entry opens =>
    obtain ⟨n, bound, rfl⟩ := k.given
    have other : handleName n ≠ handleName (s.issued + 1) := by
      rw [Ne, handleName_inj]
      omega
    refine ⟨file.refused, ⟨?_, n, Nat.le_succ_of_le bound, rfl⟩, fun _ => rfl⟩
    rw [file?_of_other other rfl]
    exact k.entry
  | listed h' directory =>
    have other : h ≠ h' := by
      rintro rfl
      cases found.symm.trans directory
    refine ⟨file.refused, ⟨?_, k.given⟩, fun _ => rfl⟩
    rw [file?_of_other other rfl]
    exact k.entry
  | relisted | mislisted | misclosed => exact ⟨file.refused, k, fun _ => rfl⟩
  | noted h' offset data found' refused code =>
    by_cases same : h' = h
    · subst same
      obtain rfl := Entry.file.inj (Option.some.inj (found'.symm.trans found))
      refine ⟨refused, k.update _, fun unwritten => ?_⟩
      rw [Request.write?, if_pos rfl] at unwritten
      cases unwritten
    · refine ⟨file.refused, ⟨?_, k.given⟩, fun _ => rfl⟩
      rw [file?_of_other (Ne.symm same) rfl]
      exact k.entry
  | closed h' found' code =>
    have other : h ≠ h' := by
      rintro rfl
      exact unclosed rfl
    refine ⟨file.refused, ⟨?_, k.given⟩, fun _ => rfl⟩
    unfold file?
    rw [Dictionary.get?_erase, if_neg other]
    exact k.entry

/-- A session has come from one state to another, and nobody has asked to close a handle. -/
def Leads (s : Server) (h : String) (t : Server) : Prop :=
  ∃ asked, t = s.after asked ∧ ∀ x ∈ asked, x.2 ≠ .close h

theorem Keeps.run (k : s.Keeps h file) (leads : s.Leads h t) :
    ∃ refused, t.Keeps h { file with refused } := by
  obtain ⟨asked, rfl, unclosed⟩ := leads
  induction asked generalizing s file with
  | nil => exact ⟨file.refused, k⟩
  | cons x rest ih =>
    obtain ⟨files, r⟩ := x
    obtain ⟨refused, next, -⟩ := k.step files (unclosed _ List.mem_cons_self)
    obtain ⟨refused, done⟩ := ih next fun x hx => unclosed x (List.mem_cons_of_mem _ hx)
    exact ⟨refused, done⟩

end Server

/-! ## One write -/

/-- All that a write can come to, for a file with contents `c` if no refusal is kept. -/
inductive Wrote (s : Server) (files : FileSystem) (h : String) (file : OpenFile) (c : Bytes)
    (offset : Nat) (data : Bytes) : Server → FileSystem → Reply → Prop where
  /-- The write, or one before it, is refused. -/
  | refused (t : Server) (files' : FileSystem) (code : Status) (why : code ≠ .ok)
      (beyond : file.refused = none → sizeLimit ≤ offset + data.length) :
      Wrote s files h file c offset data t files' (.status code)
  /-- There is nothing to write. -/
  | nothing (empty : data.isEmpty = true) :
      Wrote s files h file c offset data s files (.status .ok)
  /-- The bytes are in the file. -/
  | taken (files' : FileSystem) (free : file.refused = none) (bytes : ¬ data.isEmpty = true)
      (contents : files'.contents? file.node = some (FileSystem.overlay c offset data)) :
      Wrote s files h file c offset data s files' (.status .ok)
  /-- The last piece is not in the file, and nobody has heard of it yet. -/
  | deferred (files' : FileSystem) (fault : Fault) (beyond : sizeLimit ≤ offset + data.length) :
      Wrote s files h file c offset data
        (s.update h (.file { file with refused := some fault })) files'
        (.status .ok)

/-- The file may be written, and at places of the writer's choice. -/
def OpenFile.TakesWrites (file : OpenFile) : Prop :=
  file.access.writes = true ∧ file.access.append = false

theorem OpenFile.TakesWrites.of_overwrites {file : OpenFile}
    (h : file.access.overwrites = true) : file.TakesWrites := by
  simp only [FileSystem.Access.overwrites, Bool.and_eq_true, Bool.not_eq_true'] at h
  obtain ⟨⟨⟨write, append⟩, -⟩, -⟩ := h
  refine ⟨?_, append⟩
  unfold FileSystem.Access.writes
  rw [write]
  rfl

namespace Server

variable {s : Server} {files : FileSystem} {h : String} {file : OpenFile} {c : Bytes}

theorem handOver_of_takesWrites (able : file.TakesWrites) (offset : Nat) (data : Bytes) :
    handOver files file offset data = files.writeAt file.node offset data := by
  unfold handOver
  rw [able.1, able.2]
  rfl

/-- **Bytes that are handed over piece by piece** are laid over the contents, all of them if
they end within the limit. -/
theorem handOverAll_taken (able : file.TakesWrites) {pieces : Nat} (offset : Nat) {data : Bytes}
    (contents : files.contents? file.node = some c) (bytes : ¬ data.isEmpty = true)
    (enough : data.length ≤ pieces) :
    (∃ files', handOverAll file pieces files offset data = (files', .taken) ∧
      files'.contents? file.node = some (FileSystem.overlay c offset data)) ∨
    (sizeLimit ≤ offset + data.length ∧
      (handOverAll file pieces files offset data).2 ≠ .taken) := by
  have someBytes : ∀ {d : Bytes}, ¬ d.isEmpty = true → 0 < d.length := fun h =>
    List.length_pos_iff.mpr (mt List.isEmpty_iff.mpr h)
  have limit : 0 < pieceLimit := by decide
  induction pieces generalizing files offset data c with
  | zero =>
    have := someBytes bytes
    omega
  | succ pieces ih =>
    have split : data.take pieceLimit ++ data.drop pieceLimit = data := List.take_append_drop ..
    have lengths := congrArg List.length split
    rw [List.length_append] at lengths
    unfold handOverAll
    rw [handOver_of_takesWrites able]
    obtain ⟨files', written, contents'⟩ | ⟨beyond, refused⟩ :=
      FileSystem.writeAt_of_contents? contents offset (data.take pieceLimit)
    · rw [written]
      dsimp only
      by_cases last : (data.drop pieceLimit).isEmpty = true
      · rw [if_pos last]
        rw [List.isEmpty_iff.mp last, List.append_nil] at split
        rw [split] at contents'
        exact .inl ⟨files', rfl, contents'⟩
      · rw [if_neg last]
        have more := someBytes last
        have full : (data.take pieceLimit).length = pieceLimit := by
          rw [List.length_drop] at more
          rw [List.length_take]
          omega
        have fewer : (data.drop pieceLimit).length ≤ pieces := by omega
        obtain ⟨files'', taken, contents''⟩ | ⟨beyond, fate⟩ :=
          ih (offset + pieceLimit) contents' last fewer
        · have parts := FileSystem.overlay_overlay c offset (data.take pieceLimit)
            (data.drop pieceLimit)
          rw [full, split] at parts
          exact .inl ⟨files'', taken, contents''.trans (congrArg some parts)⟩
        · exact .inr ⟨by omega, fate⟩
    · rw [refused]
      refine .inr ⟨by omega, ?_⟩
      dsimp only
      split
      · nofun
      · nofun

/-- **A write comes to one of the listed things.** -/
theorem wrote (found : s.file? h = some file) (able : file.TakesWrites)
    (contents : file.refused = none → files.contents? file.node = some c) (offset : Nat)
    (data : Bytes) :
    Wrote s files h file c offset data (s.write files h offset data).server
      (s.write files h offset data).files (s.write files h offset data).reply := by
  have fault : ∀ e : Fault, Status.ofFault e ≠ .ok := by
    intro e
    cases e <;> decide
  unfold write
  rw [found]
  dsimp only
  cases sought : files.seek file.node offset with
  | error e =>
    refine .refused s files _ (fault e) fun free => ?_
    have limits : sizeLimit ≤ FileSystem.positionLimit := by decide
    rw [FileSystem.seek_of_contents? (contents free)] at sought
    split at sought
    case isTrue far => omega
    case isFalse => cases sought
  | ok position =>
    dsimp only
    by_cases empty : data.isEmpty = true
    · rw [if_pos empty]
      exact .nothing empty
    · rw [if_neg empty]
      cases kept : file.refused with
      | some e =>
        refine .refused _ files _ (fault e) fun free => ?_
        cases kept.symm.trans free
      | none =>
        have there := contents kept
        rw [FileSystem.seek_of_contents? there] at sought
        split at sought
        case isTrue => cases sought
        cases sought
        dsimp only
        obtain ⟨files', taken, contents'⟩ | ⟨beyond, fate⟩ :=
          handOverAll_taken able _ there empty (Nat.le_refl data.length)
        · rw [taken]
          exact .taken files' kept empty contents'
        · split
          case h_1 all => rw [all] at fate; exact absurd rfl fate
          case h_2 files' e all => exact .deferred files' e beyond
          case h_3 files' e all => exact .refused s files' _ (fault e) fun _ => beyond

end Server

/-! ## All writes by a handle -/

/-- The writes that are asked for by a handle. -/
def writesBy (h : String) (asked : List (FileSystem × Request)) : List Write :=
  asked.filterMap fun x => x.2.write? h

theorem writesBy_cons (h : String) (files : FileSystem) (r : Request)
    (rest : List (FileSystem × Request)) :
    writesBy h ((files, r) :: rest) = (r.write? h).toList ++ writesBy h rest := by
  unfold writesBy
  rw [List.filterMap_cons]
  cases r.write? h with
  | none => rfl
  | some w => rfl

/-- From one state of the files to another through requests, nobody but the holder of a
handle writes to a node: its contents are the same when the next request comes, and only
that request changes them which writes by the handle. -/
inductive OnlyWriter (h : String) (node : NodeId) :
    FileSystem → List Exchange → FileSystem → Prop where
  | done {files final : FileSystem} (same : final.contents? node = files.contents? node) :
      OnlyWriter h node files [] final
  | next {files final : FileSystem} {x : Exchange} {rest : List Exchange}
      (same : x.files.contents? node = files.contents? node)
      (others : x.request.write? h = none →
        x.outcome.files.contents? node = x.files.contents? node)
      (later : OnlyWriter h node x.outcome.files rest final) :
      OnlyWriter h node files (x :: rest) final

namespace Server

variable {s : Server} {files : FileSystem} {h : String} {file : OpenFile}

/-- What a session has come to by writes: the handle is kept, and if no refusal is kept with
it, the file holds what the writes leave. -/
structure Holds (s : Server) (files : FileSystem) (h : String) (file : OpenFile)
    (writes : List Write) : Prop where
  keeps : s.Keeps h file
  contents : file.refused = none → files.contents? file.node = some (laid writes)

variable {writes : List Write}

theorem Holds.of_same (a : s.Holds files h file writes) {files' : FileSystem}
    (same : files'.contents? file.node = files.contents? file.node) :
    s.Holds files' h file writes :=
  ⟨a.keeps, fun free => same.trans (a.contents free)⟩

/-- A request that does not write by the handle leaves all as it is. -/
theorem Holds.other (a : s.Holds files h file writes) {r : Request} (unclosed : r ≠ .close h)
    (unwritten : r.write? h = none)
    (same : (s.handle files r).files.contents? file.node = files.contents? file.node) :
    (s.handle files r).server.Holds (s.handle files r).files h file writes := by
  obtain ⟨refused, keeps, stays⟩ := a.keeps.step files unclosed
  obtain rfl := stays unwritten
  exact ⟨keeps, fun free => same.trans (a.contents free)⟩

/-- A write that is acknowledged is in the file, or its refusal is kept. -/
theorem Holds.write (a : s.Holds files h file writes) (able : file.TakesWrites) {offset : Nat}
    {data : Bytes} (answered : (s.write files h offset data).reply = .status .ok) :
    ∃ refused, (s.write files h offset data).server.Holds (s.write files h offset data).files h
        { file with refused } (writes ++ [(offset, data)]) ∧
      (offset + data.length < sizeLimit → refused = file.refused) := by
  have wrote := wrote a.keeps.entry able a.contents offset data
  generalize (s.write files h offset data).reply = reply at wrote answered
  subst answered
  generalize (s.write files h offset data).server = t at wrote ⊢
  generalize (s.write files h offset data).files = files' at wrote ⊢
  cases wrote with
  | refused _ _ _ why => exact absurd rfl why
  | nothing empty =>
    refine ⟨file.refused, ⟨a.keeps, fun free => ?_⟩, fun _ => rfl⟩
    rw [laid_concat, if_pos empty]
    exact a.contents free
  | taken _ free bytes contents =>
    refine ⟨file.refused, ⟨a.keeps, fun _ => ?_⟩, fun _ => rfl⟩
    rw [laid_concat, if_neg bytes]
    exact contents
  | deferred _ fault beyond =>
    refine ⟨some fault, ⟨a.keeps.update _, fun free => by cases free⟩, fun within => ?_⟩
    omega

/-- A write that ends within the limit is acknowledged, if no refusal is kept. -/
theorem Holds.write_within (a : s.Holds files h file writes) (able : file.TakesWrites)
    (free : file.refused = none) {offset : Nat} {data : Bytes}
    (within : offset + data.length < sizeLimit) :
    (s.write files h offset data).reply = .status .ok := by
  have wrote := wrote a.keeps.entry able a.contents offset data
  generalize (s.write files h offset data).reply = reply at wrote ⊢
  generalize (s.write files h offset data).server = t at wrote
  generalize (s.write files h offset data).files = files' at wrote
  cases wrote with
  | refused _ _ _ _ beyond =>
    have := beyond free
    omega
  | nothing | taken | deferred => rfl

/-- **Acknowledged writes are what the file holds**, unless a refusal is kept. -/
theorem Holds.run (a : s.Holds files h file writes) (able : file.TakesWrites)
    {asked : List (FileSystem × Request)} {final : FileSystem}
    (only : OnlyWriter h file.node files (s.exchanges asked) final)
    (unclosed : ∀ x ∈ asked, x.2 ≠ .close h)
    (answered : ∀ x ∈ s.exchanges asked, (x.request.write? h).isSome → x.reply = .status .ok) :
    ∃ refused, (s.after asked).Holds final h { file with refused }
      (writes ++ writesBy h asked) := by
  induction asked generalizing s files file writes with
  | nil =>
    cases only with
    | done same =>
      exact ⟨file.refused, (List.append_nil writes).symm ▸ a.of_same same⟩
  | cons x rest ih =>
    obtain ⟨found, r⟩ := x
    cases only with
    | next same others later =>
      have here := a.of_same same
      have unclosed' : ∀ x ∈ rest, x.2 ≠ .close h :=
        fun x hx => unclosed x (List.mem_cons_of_mem _ hx)
      have answered' : ∀ x ∈ (s.handle found r).server.exchanges rest,
          (x.request.write? h).isSome → x.reply = .status .ok :=
        fun x hx => answered x (List.mem_cons_of_mem _ hx)
      cases asks : r.write? h with
      | none =>
        have next := here.other (unclosed _ List.mem_cons_self) asks (others asks)
        obtain ⟨refused, done⟩ := ih next able later unclosed' answered'
        rw [writesBy_cons, asks]
        exact ⟨refused, done⟩
      | some w =>
        obtain rfl := Request.write?_eq_some.mp asks
        have ok := answered _ List.mem_cons_self (by rw [asks]; rfl)
        obtain ⟨refused, next, -⟩ := here.write able ok
        obtain ⟨refused, done⟩ := ih next able later unclosed' answered'
        rw [List.append_assoc] at done
        rw [writesBy_cons, asks]
        exact ⟨refused, done⟩

/-- **Writes that end within the limit are acknowledged**, and no refusal comes of them. -/
theorem Holds.run_within (a : s.Holds files h file writes) (able : file.TakesWrites)
    (free : file.refused = none) {asked : List (FileSystem × Request)} {final : FileSystem}
    (only : OnlyWriter h file.node files (s.exchanges asked) final)
    (unclosed : ∀ x ∈ asked, x.2 ≠ .close h)
    (within : ∀ w ∈ writesBy h asked, w.1 + w.2.length < sizeLimit) :
    (∀ x ∈ s.exchanges asked, (x.request.write? h).isSome → x.reply = .status .ok) ∧
      (s.after asked).Holds final h file (writes ++ writesBy h asked) := by
  induction asked generalizing s files writes with
  | nil =>
    cases only with
    | done same => exact ⟨nofun, (List.append_nil writes).symm ▸ a.of_same same⟩
  | cons x rest ih =>
    obtain ⟨found, r⟩ := x
    rw [writesBy_cons] at within
    cases only with
    | next same others later =>
      have here := a.of_same same
      have unclosed' : ∀ x ∈ rest, x.2 ≠ .close h :=
        fun x hx => unclosed x (List.mem_cons_of_mem _ hx)
      have within' : ∀ w ∈ writesBy h rest, w.1 + w.2.length < sizeLimit :=
        fun w hw => within w (List.mem_append_right _ hw)
      rw [writesBy_cons]
      cases asks : r.write? h with
      | none =>
        have next := here.other (unclosed _ List.mem_cons_self) asks (others asks)
        obtain ⟨answered, done⟩ := ih next later unclosed' within'
        refine ⟨fun x hx write => ?_, done⟩
        obtain rfl | hx := List.mem_cons.mp hx
        · rw [asks] at write
          cases write
        · exact answered x hx write
      | some w =>
        have ends : w.1 + w.2.length < sizeLimit :=
          within w (by rw [asks]; exact List.mem_cons_self)
        obtain rfl := Request.write?_eq_some.mp asks
        have ok := here.write_within able free ends
        obtain ⟨refused, next, kept⟩ := here.write able ok
        obtain rfl := kept ends
        obtain ⟨answered, done⟩ := ih next later unclosed' within'
        rw [List.append_assoc] at done
        refine ⟨fun x hx write => ?_, done⟩
        obtain rfl | hx := List.mem_cons.mp hx
        · exact ok
        · exact answered x hx write

/-- A handle is closed without a fault when no refusal is kept, and the files stay. -/
theorem Holds.close (a : s.Holds files h file writes) :
    ((s.handle files (.close h)).reply = .status .ok ↔ file.refused = none) ∧
      (s.handle files (.close h)).files = files := by
  have found := file?_eq_some.mp a.keeps.entry
  show ((s.close files h).reply = .status .ok ↔ _) ∧ (s.close files h).files = files
  unfold Server.close
  rw [found]
  dsimp only
  cases file.refused with
  | none => exact ⟨⟨fun _ => rfl, fun _ => rfl⟩, rfl⟩
  | some e =>
    have fault : (s.answer files (.fault e)).reply ≠ .status .ok := by cases e <;> nofun
    exact ⟨⟨fun ok => absurd ok fault, nofun⟩, rfl⟩

end Server

/-! ## Opening -/

/-- Writing, creating and truncating are asked for, and appending is not. -/
theorem overwrites_accessOf (flags : Nat) :
    (accessOf flags).overwrites =
      (flags.testBit 1 && !flags.testBit 2 && flags.testBit 4 && flags.testBit 3) := by
  unfold accessOf FileSystem.Access.overwrites
  dsimp only
  cases flags.testBit 3 <;> cases flags.testBit 5 <;> rfl

/-- A file was opened, and a handle given out for it. -/
structure Exchange.OpensFile (x : Exchange) (access : FileSystem.Access) (h : String)
    (node : NodeId) : Prop where
  asked : ∃ path, x.request = .openFile path access
  given : x.reply = .handle h
  entry : x.outcome.server.file? h = some { node, access }

namespace Exchange

variable {x : Exchange} {access : FileSystem.Access} {h : String} {node : NodeId}

/-- What opening has done. -/
theorem OpensFile.opened (o : x.OpensFile access h node) :
    (∃ path, x.files.openFile x.server.current access (x.server.resolve path) =
      .ok (x.outcome.files, node)) ∧
    h = handleName x.outcome.server.issued := by
  obtain ⟨s, files, r⟩ := x
  obtain ⟨⟨path, rfl⟩, given, entry⟩ := o
  change (s.openFile files path access).reply = _ at given
  change (s.openFile files path access).server.file? h = _ at entry
  show (∃ path', files.openFile s.current access (s.resolve path') =
    .ok ((s.openFile files path access).files, node)) ∧
      h = handleName (s.openFile files path access).server.issued
  unfold Server.openFile at given entry ⊢
  cases opened : files.openFile s.current access (s.resolve path) with
  | error e =>
    rw [opened] at given
    cases given
  | ok result =>
    rw [opened] at given entry
    obtain rfl := Reply.handle.inj given
    have issued : some (Entry.file { node := result.2, access }) = some (.file { node, access }) :=
      (Dictionary.get?_insert_self _ _ _).symm.trans (Server.file?_eq_some.mp entry)
    obtain rfl := (OpenFile.mk.inj (Entry.file.inj (Option.some.inj issued))).1
    exact ⟨⟨path, opened⟩, rfl⟩

/-- The handle of a file that was opened is kept. -/
theorem OpensFile.keeps (o : x.OpensFile access h node) :
    x.outcome.server.Keeps h { node, access } :=
  ⟨o.entry, _, Nat.le_refl _, o.opened.2.symm⟩

/-- Who opens a file for overwriting starts from an empty file. -/
theorem OpensFile.holds (o : x.OpensFile access h node) (overwrites : access.overwrites = true)
    (regular : (x.outcome.files.contents? node).isSome) :
    x.outcome.server.Holds x.outcome.files h { node, access } [] := by
  refine ⟨o.keeps, fun _ => ?_⟩
  obtain ⟨⟨path, opened⟩, -⟩ := o.opened
  obtain ⟨c, contents⟩ := Option.isSome_iff_exists.mp regular
  obtain rfl := FileSystem.contents?_openFile overwrites opened contents
  exact contents

end Exchange

end ShellGateway.Sftp
