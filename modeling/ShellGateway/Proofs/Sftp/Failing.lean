import Mathlib
import ShellGateway.Proofs.Sftp.Acknowledged

/-!
# Requests that fail

A request that fails should leave the table of handles as it was, so that it can be asked again
when the cause is gone. `Server.Failed` lists all that a failed request does to a session,
closing apart, and there are two exceptions to "nothing".

- A write that is answered with the refusal of an earlier one takes the note of that refusal
  off. What its handle stands for is the same as before.
- A directory is marked as listed before its entries are read. So the first listing by a handle
  counts even if the directory could not be read, and the handle is good for nothing but to be
  closed from then on (`Server.Spent`): `failed_request`, `listing_lost`.
-/

namespace ShellGateway.Sftp

open Files

/-- Whether a handle has been used to list a directory. -/
def Entry.listed : Entry → Bool
  | file _ => false
  | directory d => d.listed

namespace Server

variable {s t : Server} {files : FileSystem} {h : String} {r : Request}

/-- The table of handles: what each handle in use stands for, and whether it has been listed. -/
def table (s : Server) (h : String) : Option (Subject × Bool) :=
  (s.handles.get? h).map fun entry => (entry.subject, entry.listed)

/-- The request lists a directory by a handle that has not been used for it. -/
def ListsFirst (s : Server) (r : Request) : Prop :=
  ∃ h d, r = .readDirectory h ∧ s.handles.get? h = some (.directory d) ∧ d.listed = false

/-- All that a request which fails does to a session, unless it closes a handle. -/
inductive Failed (s : Server) : Request → Server → Prop where
  | nothing (r : Request) (further : ¬ s.ListsFirst r) : Failed s r s
  /-- An earlier refusal was reported, which is noted no longer. -/
  | reported (h : String) (offset : Nat) (data : Bytes) {file : OpenFile} {e : Fault}
      (found : s.file? h = some file) (owed : file.refused = some e) :
      Failed s (.write h offset data) (s.update h (.file { file with refused := none }))
  /-- A directory could not be read, and counts as listed. -/
  | unread (h : String) {d : OpenDirectory} (found : s.handles.get? h = some (.directory d))
      (unlisted : d.listed = false) :
      Failed s (.readDirectory h) (s.update h (.directory { d with listed := true }))

theorem not_listsFirst (other : ∀ h, r ≠ .readDirectory h) : ¬ s.ListsFirst r := by
  rintro ⟨h, d, rfl, -, -⟩
  exact other h rfl

/-- A write that fails has done nothing to the session, or has reported a refusal. -/
theorem failed_write {offset : Nat} {data : Bytes} {code : Status}
    (failed : (s.write files h offset data).reply = .status code) (bad : code ≠ .ok) :
    s.Failed (.write h offset data) (s.write files h offset data).server := by
  have nothing : s.Failed (.write h offset data) s := .nothing _ (not_listsFirst fun _ => nofun)
  have outcome := writeOutcome s files h offset data
  generalize s.write files h offset data = o at failed outcome ⊢
  cases outcome with
  | unknown | misplaced | cutShort => exact nothing
  | reported found _ _ owed => exact .reported h offset data found owed
  | nothing | taken | deferred => exact absurd (Reply.status.inj failed).symm bad

/-- **The list is complete.** -/
theorem failed_handle {code : Status} (failed : (s.handle files r).reply = .status code)
    (bad : code ≠ .ok) (kept : ∀ h, r ≠ .close h) : s.Failed r (s.handle files r).server := by
  have change := s.change_handle files r
  cases r with
  | write h offset data => exact failed_write failed bad
  | close h => exact absurd rfl (kept h)
  | readDirectory h =>
    generalize (s.handle files (.readDirectory h)).reply = reply at change
    generalize (s.handle files (.readDirectory h)).server = t at change ⊢
    cases change with
    | nothing _ _ _ plain => cases plain
    | issued _ _ opens => cases opens
    | listed _ found unlisted => exact .unread h found unlisted
    | relisted _ found listed =>
      refine .nothing _ ?_
      rintro ⟨h', d, same, found', unlisted⟩
      cases same
      cases found.symm.trans found'
      cases listed.symm.trans unlisted
    | mislisted _ other =>
      refine .nothing _ ?_
      rintro ⟨h', d, same, found, -⟩
      cases same
      exact other d found
  | _ =>
    -- of all other requests, those that succeed give out handles
    rw [failed] at change
    generalize (s.handle files _).server = t at change ⊢
    cases change with
    | nothing => exact .nothing _ (not_listsFirst fun _ => nofun)

/-! ## The table after a failed request -/

theorem table_update (s : Server) (h : String) (entry : Entry) (h' : String) :
    (s.update h entry).table h' =
      if h' = h then some (entry.subject, entry.listed) else s.table h' := by
  unfold table update
  dsimp only
  rw [Dictionary.get?_insert]
  split
  · rfl
  · rfl

/-- The table stays as it was, unless a directory could not be read at its first listing. -/
theorem Failed.table (failed : s.Failed r t) (further : ¬ s.ListsFirst r) : t.table = s.table := by
  cases failed with
  | nothing => rfl
  | reported h offset data found owed =>
    funext h'
    rw [table_update]
    split
    case isFalse => rfl
    case isTrue same =>
      rw [same, Server.table, file?_eq_some.mp found]
      rfl
  | unread h found unlisted => exact absurd ⟨h, _, rfl, found, unlisted⟩ further

theorem Failed.issued (failed : s.Failed r t) : t.issued = s.issued := by
  cases failed <;> rfl

/-- A directory that could not be read at its first listing counts as listed. -/
theorem Failed.marks (failed : s.Failed r t) (first : s.ListsFirst r) :
    ∃ h d, r = .readDirectory h ∧ s.handles.get? h = some (.directory d) ∧ d.listed = false ∧
      t = s.update h (.directory { d with listed := true }) := by
  cases failed with
  | nothing _ further => exact absurd first further
  | reported =>
    obtain ⟨_, _, other, -⟩ := first
    cases other
  | unread h found unlisted => exact ⟨h, _, rfl, found, unlisted, rfl⟩

/-! ## Handles that have been listed -/

/-- A handle of a directory has been used to list it, and will not be given out again. -/
structure Spent (s : Server) (h : String) : Prop where
  entry : ∃ d, s.handles.get? h = some (.directory d) ∧ d.listed = true
  given : ∃ k ≤ s.issued, handleName k = h

/-- **A handle that is spent stays so**, whatever is asked for, until it is closed. -/
theorem Spent.step (spent : s.Spent h) (files : FileSystem) (unclosed : r ≠ .close h) :
    (s.handle files r).server.Spent h := by
  have change := s.change_handle files r
  obtain ⟨⟨d, found, listed⟩, k, bound, name⟩ := spent
  -- what is put under another handle is no concern of this one
  have beside : ∀ h' entry, h ≠ h' → (s.handles.insert h' entry).get? h = some (.directory d) := by
    intro h' entry other
    rw [Dictionary.get?_insert, if_neg other]
    exact found
  generalize (s.handle files r).reply = reply at change
  generalize (s.handle files r).server = t at change ⊢
  cases change with
  | nothing | relisted | mislisted | misclosed => exact ⟨⟨d, found, listed⟩, k, bound, name⟩
  | issued r entry opens =>
    have other : h ≠ handleName (s.issued + 1) := by
      rw [← name, Ne, handleName_inj]
      omega
    exact ⟨⟨d, beside _ _ other, listed⟩, k, Nat.le_succ_of_le bound, name⟩
  | listed h' found' unlisted =>
    have other : h ≠ h' := by
      rintro rfl
      cases found.symm.trans found'
      cases listed.symm.trans unlisted
    exact ⟨⟨d, beside _ _ other, listed⟩, k, bound, name⟩
  | noted h' offset data found' =>
    have other : h ≠ h' := by
      rintro rfl
      cases found.symm.trans found'
    exact ⟨⟨d, beside _ _ other, listed⟩, k, bound, name⟩
  | closed h' found' code =>
    have other : h ≠ h' := by
      rintro rfl
      exact unclosed rfl
    refine ⟨⟨d, ?_, listed⟩, k, bound, name⟩
    rw [Dictionary.get?_erase, if_neg other]
    exact found

theorem Spent.run (spent : s.Spent h) (leads : s.Leads h t) : t.Spent h := by
  obtain ⟨asked, rfl, unclosed⟩ := leads
  induction asked generalizing s with
  | nil => exact spent
  | cons x rest ih =>
    obtain ⟨files, r⟩ := x
    refine ih (spent.step files (unclosed _ List.mem_cons_self)) fun x hx => ?_
    exact unclosed x (List.mem_cons_of_mem _ hx)

/-- Nothing is listed by a handle that is spent. -/
theorem Spent.reply (spent : s.Spent h) (files : FileSystem) :
    (s.handle files (.readDirectory h)).reply = .status .eof := by
  obtain ⟨⟨d, found, listed⟩, -⟩ := spent
  show (s.readDirectory files h).reply = _
  rw [reply_readDirectory files found, if_pos listed]

end Server

/-! ## Failed requests -/

/-- What session `s` has become by a request that failed, and what it comes to later. -/
structure AfterFailure (s t : Server) (r : Request) : Prop where
  issued : t.issued = s.issued
  /-- The table is as it was, unless the request was the first listing of a directory. -/
  table : t.table = s.table ↔ ¬ s.ListsFirst r
  /-- Then the session is as it was, and the request can be asked again. All that may be gone
  is the note of a refused write, which the request has reported. -/
  same : ¬ s.ListsFirst r → t = s ∨ ∃ h offset data file, r = .write h offset data ∧
    s.file? h = some file ∧ file.refused.isSome = true ∧
    t = s.update h (.file { file with refused := none })
  /-- A first listing marks its own handle, and no other. -/
  marked : s.ListsFirst r → ∃ h path, r = .readDirectory h ∧
    s.table h = some (.directory path, false) ∧ t.table h = some (.directory path, true) ∧
    ∀ h', h' ≠ h → t.table h' = s.table h'
  /-- The handle lists nothing until it is closed, whatever the files are by then. -/
  lost : s.ListsFirst r → ∀ h, r = .readDirectory h → ∀ u, t.Leads h u → ∀ files,
    (u.handle files r).reply = .status .eof

/-- **A request that fails leaves the table of handles as it was**, closing apart, except for a
first listing that fails: it counts all the same. -/
theorem failed_request (root : String) (current : Trail) (asked : List (FileSystem × Request))
    (files : FileSystem) (r : Request) (code : Status)
    (failed : ((Server.after { root, current } asked).handle files r).reply = .status code)
    (bad : code ≠ .ok) (kept : ∀ h, r ≠ .close h) :
    AfterFailure (Server.after { root, current } asked)
      ((Server.after { root, current } asked).handle files r).server r := by
  have given : ∀ {h entry}, (Server.after { root, current } asked).handles.get? h = some entry →
      ∃ k ≤ (Server.after { root, current } asked).issued, handleName k = h :=
    Server.given_of_reached
  generalize Server.after { root, current } asked = s at failed given ⊢
  have failure := Server.failed_handle failed bad kept
  generalize (s.handle files r).server = t at failure ⊢
  constructor
  case issued => exact failure.issued
  case table =>
    refine ⟨fun same first => ?_, failure.table⟩
    obtain ⟨h, d, rfl, found, unlisted, rfl⟩ := failure.marks first
    have here := congrFun same h
    rw [Server.table_update, if_pos rfl, Server.table, found] at here
    cases unlisted.symm.trans (Prod.mk.inj (Option.some.inj here)).2.symm
  case same =>
    intro further
    cases failure with
    | nothing => exact .inl rfl
    | reported h offset data found owed =>
      exact .inr ⟨h, offset, data, _, rfl, found, Option.isSome_of_eq_some owed, rfl⟩
    | unread h found unlisted => exact absurd ⟨h, _, rfl, found, unlisted⟩ further
  case marked =>
    intro first
    obtain ⟨h, d, rfl, found, unlisted, rfl⟩ := failure.marks first
    refine ⟨h, d.path, rfl, ?_, ?_, fun h' other => ?_⟩
    · rw [Server.table, found, Option.map_some, Entry.listed, unlisted]
      rfl
    · rw [Server.table_update, if_pos rfl]
      rfl
    · rw [Server.table_update, if_neg other]
  case lost =>
    rintro first h rfl u leads later
    obtain ⟨h', d, same, found, unlisted, rfl⟩ := failure.marks first
    cases same
    have spent : Server.Spent (s.update h (.directory { d with listed := true })) h :=
      ⟨⟨_, Dictionary.get?_insert_self _ _ _, rfl⟩, given found⟩
    exact (spent.run leads).reply later

/-- A directory with one file, under a name of one's choice. -/
def withDirectory (name : String) : FileSystem where
  nodes := ⟨[(0, .directory ⟨[(name, 1)]⟩ newDirectoryMode),
    (1, .directory ⟨[("f", 2)]⟩ newDirectoryMode), (2, .file [7] newFileMode)]⟩
  next := 3

/-- The directory was opened under its name. -/
def withOpened : Server where
  root := "/"
  handles := ⟨[("h1", .directory { path := "/d" })]⟩
  issued := 1

theorem failed_request_renamed :
    ((Server.after { root := "/" } [(withDirectory "d", .openDirectory "d")]).handle
        (withDirectory "e") (.readDirectory "h1")).reply = .status .noSuchFile ∧
      Status.noSuchFile ≠ .ok ∧ (∀ h, Request.readDirectory "h1" ≠ .close h) ∧
      AfterFailure (Server.after { root := "/" } [(withDirectory "d", .openDirectory "d")])
        ((Server.after { root := "/" } [(withDirectory "d", .openDirectory "d")]).handle
          (withDirectory "e") (.readDirectory "h1")).server (.readDirectory "h1") := by
  have failed : ((Server.after { root := "/" } [(withDirectory "d", .openDirectory "d")]).handle
      (withDirectory "e") (.readDirectory "h1")).reply = .status .noSuchFile := by cbv
  have bad : Status.noSuchFile ≠ .ok := by decide
  have kept : ∀ h, Request.readDirectory "h1" ≠ .close h := by
    rintro h ⟨⟩
  exact ⟨failed, bad, kept, failed_request "/" [] _ _ _ _ failed bad kept⟩

/-- **A directory that was away when it was first listed is not listed when it is back**, by the
handle that it was opened with, although nothing was listed by that handle. -/
theorem listing_lost :
    Server.after { root := "/" } [(withDirectory "d", .openDirectory "d")] = withOpened ∧
      (withOpened.handle (withDirectory "e") (.readDirectory "h1")).reply = .status .noSuchFile ∧
      withOpened.table "h1" = some (.directory "/d", false) ∧
      (withOpened.handle (withDirectory "e") (.readDirectory "h1")).server.table "h1" =
        some (.directory "/d", true) ∧
      (withOpened.handle (withDirectory "d") (.readDirectory "h1")).reply =
        .names [("f", some ⟨.file, 1, 0o100644⟩)] ∧
      ((withOpened.handle (withDirectory "e") (.readDirectory "h1")).server.handle
        (withDirectory "d") (.readDirectory "h1")).reply = .status .eof := by
  refine ⟨by cbv, by cbv, by cbv, by cbv, by cbv, by cbv⟩

end ShellGateway.Sftp
