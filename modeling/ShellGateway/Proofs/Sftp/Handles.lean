import Mathlib.Data.List.Infix
import Mathlib.Data.List.Nodup
import ShellGateway.Proofs.Sftp.Exchange
import ShellGateway.Proofs.Sftp.Table

/-!
# Handles

A handle is good from the answer that gives it out to the first request to take it
back, and for what was opened then; it is never given out again. The table of a
session tells this and no more, whatever the client asks for, in whatever order, and
whatever the files answer (`Accounted`).

What a handle is good for goes by what was opened. Bytes are read and written by
handles of files, and directories are listed by handles of directories. A directory
is listed once: the first listing has every entry of it, and all others have none,
whatever is done by other handles in between.
-/

namespace ShellGateway.Sftp

open Files

/-! ## Handles in use -/

/-- The handle that was given out. -/
def Exchange.issued? (x : Exchange) : Option String :=
  x.reply.handle?

/-- A handle was given out in exchange `x`, and nobody has asked to take it back in
what came `since`. -/
structure Live (log : List Exchange) (h : String) (x : Exchange) (since : List Exchange) :
    Prop where
  split : ∃ earlier, log = earlier ++ x :: since
  issued : x.issued? = some h
  unclosed : ∀ y ∈ since, y.request ≠ .close h

/-- A handle is in use after an exchange if it was given out then, or was in use and is
not taken back. -/
theorem live_concat {log : List Exchange} {h : String} {x y : Exchange} {since : List Exchange} :
    Live (log ++ [y]) h x since ↔
      (x = y ∧ since = [] ∧ y.issued? = some h) ∨
        ∃ before, since = before ++ [y] ∧ Live log h x before ∧ y.request ≠ .close h := by
  constructor
  · rintro ⟨⟨earlier, split⟩, issued, unclosed⟩
    rcases List.eq_nil_or_concat since with rfl | ⟨before, z, rfl⟩
    · obtain ⟨-, last⟩ := List.append_inj' split rfl
      obtain rfl := (List.cons.inj last).1
      exact .inl ⟨rfl, rfl, issued⟩
    · rw [List.concat_eq_append] at *
      rw [← List.cons_append, ← List.append_assoc] at split
      obtain ⟨rfl, last⟩ := List.append_inj' split rfl
      obtain rfl := (List.cons.inj last).1
      refine .inr ⟨before, rfl, ⟨⟨earlier, rfl⟩, issued, ?_⟩, ?_⟩
      · intro z hz
        exact unclosed z (List.mem_append_left _ hz)
      · exact unclosed y List.mem_concat_self
  · rintro (⟨rfl, rfl, issued⟩ | ⟨before, rfl, ⟨⟨earlier, rfl⟩, issued, unclosed⟩, last⟩)
    · exact ⟨⟨log, rfl⟩, issued, fun z hz => by cases hz⟩
    · refine ⟨⟨earlier, by rw [List.append_assoc, List.cons_append]⟩, issued, ?_⟩
      intro z hz
      rcases List.mem_append.mp hz with hz | hz
      · exact unclosed z hz
      · rw [List.mem_singleton.mp hz]
        exact last

/-- A handle in use was given out. -/
theorem Live.mem_issued {log : List Exchange} {h : String} {x : Exchange} {since : List Exchange}
    (live : Live log h x since) : h ∈ log.filterMap (·.issued?) := by
  obtain ⟨earlier, rfl⟩ := live.split
  exact List.mem_filterMap.mpr
    ⟨x, List.mem_append_right _ List.mem_cons_self, live.issued⟩

/-! ## What the table tells -/

/-- What stands in the table for a handle that was given out in exchange `x`: what was
opened, and for a directory whether it was listed since. -/
structure Stands (h : String) (x : Exchange) (since : List Exchange) (entry : Entry) : Prop where
  opened : ∃ first, x.server.Opens x.files x.request first ∧ entry.subject = first.subject
  listed : ∀ d, entry = .directory d → (d.listed = true ↔ ∃ y ∈ since, y.request = .readDirectory h)

/-- The table of session `t`, which began as `s`, tells of the handles in use. -/
structure Accounted (s : Server) (log : List Exchange) (t : Server) : Prop where
  place : t.root = s.root ∧ t.current = s.current
  /-- Handles are given out by their numbers, one after the other. -/
  issued : log.filterMap (·.issued?) = (List.range t.issued).map fun n => handleName (n + 1)
  found : ∀ h entry, t.handles.get? h = some entry →
    ∃ x since, Live log h x since ∧ Stands h x since entry
  kept : ∀ h x since, Live log h x since →
    ∃ entry, t.handles.get? h = some entry ∧ Stands h x since entry

namespace Accounted

variable {s t : Server} {log : List Exchange}

/-- The next handle was never given out. -/
theorem fresh (a : Accounted s log t) : handleName (t.issued + 1) ∉ log.filterMap (·.issued?) := by
  rw [a.issued, List.mem_map]
  rintro ⟨n, hn, same⟩
  have := handleName_inj.mp same
  have := List.mem_range.mp hn
  omega

/-- Nothing was opened yet. -/
theorem start (s : Server) (none : s.handles = .empty) (zero : s.issued = 0) :
    Accounted s [] s where
  place := ⟨rfl, rfl⟩
  issued := by
    rw [zero]
    rfl
  found h entry found := by
    rw [none] at found
    cases found
  kept h x since live := by
    obtain ⟨earlier, split⟩ := live.split
    cases earlier <;> cases split

/-! ### One request -/

/-- What a request makes of an entry whose handle it does not take back. -/
structure Goes (h : String) (r : Request) (entry entry' : Entry) : Prop where
  subject : entry'.subject = entry.subject
  listed : ∀ d', entry' = .directory d' → ∃ d, entry = .directory d ∧
    (d'.listed = true ↔ d.listed = true ∨ r = .readDirectory h)

theorem Goes.of_ne {h : String} {r : Request} (other : r ≠ .readDirectory h) (entry : Entry) :
    Goes h r entry entry where
  subject := rfl
  listed d hd := ⟨d, hd, by simp [other]⟩

theorem stands_concat {h : String} {x y : Exchange} {since : List Exchange} {entry entry' : Entry}
    (stands : Stands h x since entry) (goes : Goes h y.request entry entry') :
    Stands h x (since ++ [y]) entry' where
  opened := by
    obtain ⟨first, opens, subject⟩ := stands.opened
    exact ⟨first, opens, goes.subject.trans subject⟩
  listed d' hd' := by
    obtain ⟨d, hd, listed⟩ := goes.listed d' hd'
    rw [listed, stands.listed d hd]
    constructor
    · rintro (⟨z, hz, list⟩ | list)
      · exact ⟨z, List.mem_append_left _ hz, list⟩
      · exact ⟨y, List.mem_concat_self, list⟩
    · rintro ⟨z, hz, list⟩
      rcases List.mem_append.mp hz with hz | hz
      · exact .inl ⟨z, hz, list⟩
      · rw [List.mem_singleton.mp hz] at list
        exact .inr list

/-- A request that gives out no handle. -/
theorem goes_on (a : Accounted s log t) {x : Exchange} (quiet : x.issued? = none) {t' : Server}
    (place : t'.root = t.root ∧ t'.current = t.current) (number : t'.issued = t.issued)
    (lost : ∀ h, x.request ≠ .close h → t.handles.get? h = none → t'.handles.get? h = none)
    (goes : ∀ h entry, x.request ≠ .close h → t.handles.get? h = some entry →
      ∃ entry', t'.handles.get? h = some entry' ∧ Goes h x.request entry entry')
    (closed : ∀ h, x.request = .close h → t'.handles.get? h = none) :
    Accounted s (log ++ [x]) t' where
  place := ⟨place.1.trans a.place.1, place.2.trans a.place.2⟩
  issued := by
    rw [List.filterMap_append, a.issued, number, List.filterMap_cons, quiet]
    exact List.append_nil _
  found h entry' found := by
    have unclosed : x.request ≠ .close h := by
      intro close
      rw [closed h close] at found
      cases found
    cases before : t.handles.get? h with
    | none =>
      rw [lost h unclosed before] at found
      cases found
    | some entry =>
      obtain ⟨entry'', after, goes⟩ := goes h entry unclosed before
      obtain rfl := Option.some.inj (after.symm.trans found)
      obtain ⟨y, since, live, stands⟩ := a.found h entry before
      exact ⟨y, _, live_concat.mpr (.inr ⟨since, rfl, live, unclosed⟩), stands_concat stands goes⟩
  kept h y since live := by
    rcases live_concat.mp live with ⟨-, -, issued⟩ | ⟨before, rfl, live, unclosed⟩
    · rw [quiet] at issued
      cases issued
    · obtain ⟨entry, found, stands⟩ := a.kept h y before live
      obtain ⟨entry', after, goes⟩ := goes h entry unclosed found
      exact ⟨entry', after, stands_concat stands goes⟩

/-- A request that leaves the table as it is. -/
theorem stays (a : Accounted s log t) {x : Exchange} (quiet : x.issued? = none)
    (goes : ∀ h entry, t.handles.get? h = some entry → Goes h x.request entry entry)
    (unclosed : ∀ h, x.request = .close h → t.handles.get? h = none) :
    Accounted s (log ++ [x]) t :=
  a.goes_on quiet ⟨rfl, rfl⟩ rfl (fun _ _ h => h)
    (fun h entry _ found => ⟨entry, found, goes h entry found⟩) unclosed

/-- A request that changes the entry of one handle. -/
theorem updates (a : Accounted s log t) {x : Exchange} (quiet : x.issued? = none) {h : String}
    {entry entry' : Entry} (found : t.handles.get? h = some entry)
    (here : Goes h x.request entry entry')
    (elsewhere : ∀ h', h' ≠ h → x.request ≠ .readDirectory h')
    (unclosed : ∀ h', x.request ≠ .close h') : Accounted s (log ++ [x]) (t.update h entry') := by
  have look : ∀ h', (t.update h entry').handles.get? h' =
      if h' = h then some entry' else t.handles.get? h' :=
    fun h' => Dictionary.get?_insert _ _ _ _
  refine a.goes_on quiet ⟨rfl, rfl⟩ rfl ?_ ?_ ?_
  · intro h' _ missing
    rw [look]
    by_cases hh : h' = h
    · rw [hh, found] at missing
      cases missing
    · rw [if_neg hh]
      exact missing
  · intro h' e _ before
    rw [look]
    by_cases hh : h' = h
    · subst hh
      obtain rfl := Option.some.inj (found.symm.trans before)
      exact ⟨entry', if_pos rfl, here⟩
    · rw [if_neg hh]
      exact ⟨e, before, .of_ne (elsewhere h' hh) e⟩
  · intro h' close
    exact absurd close (unclosed h')

/-- A request that gives out a handle. -/
theorem issues (a : Accounted s log t) {x : Exchange}
    (issued : x.issued? = some (handleName (t.issued + 1)))
    {entry : Entry} (opens : x.server.Opens x.files x.request entry) :
    Accounted s (log ++ [x]) (t.issue entry).1 := by
  have look : ∀ h, (t.issue entry).1.handles.get? h =
      if h = handleName (t.issued + 1) then some entry else t.handles.get? h :=
    fun h => Dictionary.get?_insert _ _ _ _
  have plain : ∀ h, x.request ≠ .readDirectory h ∧ x.request ≠ .close h := by
    intro h
    generalize x.request = r at opens
    cases opens <;> exact ⟨by simp, by simp⟩
  have new : Stands (handleName (t.issued + 1)) x [] entry := by
    refine ⟨⟨entry, opens, rfl⟩, fun d hd => ?_⟩
    have unlisted : d.listed = false := by
      subst hd
      generalize x.request = r at opens
      cases opens
      rfl
    simp [unlisted]
  refine ⟨a.place, ?_, ?_, ?_⟩
  · show _ = (List.range (t.issued + 1)).map _
    rw [List.filterMap_append, a.issued, List.range_succ, List.map_append, List.filterMap_cons,
      issued]
    rfl
  · intro h e found
    rw [look] at found
    by_cases hh : h = handleName (t.issued + 1)
    · subst hh
      rw [if_pos rfl] at found
      obtain rfl := Option.some.inj found
      exact ⟨x, [], live_concat.mpr (.inl ⟨rfl, rfl, issued⟩), new⟩
    · rw [if_neg hh] at found
      obtain ⟨y, since, live, stands⟩ := a.found h e found
      exact ⟨y, _, live_concat.mpr (.inr ⟨since, rfl, live, (plain h).2⟩),
        stands_concat stands (.of_ne (plain h).1 e)⟩
  · intro h y since live
    rw [look]
    rcases live_concat.mp live with ⟨rfl, rfl, issued'⟩ | ⟨before, rfl, live, -⟩
    · obtain rfl := Option.some.inj (issued.symm.trans issued')
      exact ⟨entry, if_pos rfl, new⟩
    · have other : h ≠ handleName (t.issued + 1) := by
        rintro rfl
        exact a.fresh live.mem_issued
      obtain ⟨e, found, stands⟩ := a.kept h y before live
      rw [if_neg other]
      exact ⟨e, found, stands_concat stands (.of_ne (plain h).1 e)⟩

/-- **A request is accounted for.** -/
theorem step (a : Accounted s log t) (files : FileSystem) (r : Request) :
    Accounted s (log ++ [⟨t, files, r⟩]) (t.handle files r).server := by
  have change := t.change_handle files r
  have reply : (Exchange.mk t files r).issued? = (t.handle files r).reply.handle? := rfl
  generalize (t.handle files r).reply = answer at change reply
  generalize (t.handle files r).server = t' at change
  cases change with
  | nothing _ _ quiet plain =>
    refine a.stays (reply.trans quiet) (fun h entry _ => .of_ne ?_ entry) fun h close => ?_
    · rintro rfl
      cases plain
    · obtain rfl : r = .close h := close
      cases plain
  | issued _ entry opens => exact a.issues reply opens
  | listed h found unlisted _ quiet =>
    refine a.updates (reply.trans quiet) found ⟨rfl, fun d' hd' => ?_⟩ ?_ fun h' => by simp
    · cases hd'
      exact ⟨_, rfl, by simp⟩
    · intro h' other
      simpa using Ne.symm other
  | relisted h found listed =>
    refine a.stays reply (fun h' entry here => ?_) fun h' close => by cases close
    by_cases hh : h' = h
    · subst hh
      obtain rfl := Option.some.inj (found.symm.trans here)
      refine ⟨rfl, fun d' hd' => ⟨d', hd', ?_⟩⟩
      cases hd'
      simp [listed]
    · exact .of_ne (by simpa using Ne.symm hh) entry
  | mislisted h other =>
    refine a.stays reply (fun h' entry here => ?_) fun h' close => by cases close
    by_cases hh : h' = h
    · subst hh
      refine ⟨rfl, fun d' hd' => ?_⟩
      subst hd'
      exact absurd here (other d')
    · exact .of_ne (by simpa using Ne.symm hh) entry
  | noted h offset data found refused code =>
    exact a.updates reply found ⟨rfl, fun d' hd' => by cases hd'⟩ (fun h' _ => by simp)
      fun h' => by simp
  | closed h found code =>
    have look : ∀ h', (t.handles.erase h).get? h' = if h' = h then none else t.handles.get? h' :=
      Dictionary.get?_erase _ _
    refine a.goes_on reply ⟨rfl, rfl⟩ rfl ?_ ?_ ?_
    · intro h' _ missing
      show (t.handles.erase h).get? h' = none
      rw [look, missing, ite_self]
    · intro h' entry unclosed before
      have other : h' ≠ h := by
        rintro rfl
        exact unclosed rfl
      refine ⟨entry, ?_, .of_ne (by simp) entry⟩
      show (t.handles.erase h).get? h' = _
      rw [look, if_neg other]
      exact before
    · intro h' close
      cases close
      show (t.handles.erase h).get? h = none
      rw [look, if_pos rfl]
  | misclosed h missing =>
    refine a.stays reply (fun h' entry _ => .of_ne (by simp) entry) fun h' close => ?_
    cases close
    exact missing

/-- **A session is accounted for.** -/
theorem run (a : Accounted s log t) (asked : List (FileSystem × Request)) :
    Accounted s (log ++ t.exchanges asked) (t.after asked) := by
  induction asked generalizing t log with
  | nil =>
    show Accounted s (log ++ []) t
    rw [List.append_nil]
    exact a
  | cons x rest ih =>
    have first := ih (a.step x.1 x.2)
    rw [List.append_assoc] at first
    exact first

end Accounted

/-! ## What handles are good for -/

namespace Server

variable {s : Server} {files : FileSystem} {h : String}

/-- Bytes are read from what is open as a file. -/
theorem file?_of_read {offset count : Nat} {bytes : Bytes}
    (read : (s.read files h offset count).reply = .data bytes) : ∃ file, s.file? h = some file := by
  cases hf : s.file? h with
  | some file => exact ⟨file, rfl⟩
  | none =>
    unfold Server.read readBy at read
    rw [hf] at read
    cases read

/-- Bytes are written to what is open as a file. -/
theorem file?_of_write {offset : Nat} {data : Bytes}
    (written : (s.write files h offset data).reply = .status .ok) :
    ∃ file, s.file? h = some file := by
  cases hf : s.file? h with
  | some file => exact ⟨file, rfl⟩
  | none =>
    unfold Server.write at written
    rw [hf] at written
    cases written

variable (files) in
/-- The answer to a listing: what the directory holds at that time, unless it was listed
before. -/
theorem reply_readDirectory {d : OpenDirectory} (found : s.handles.get? h = some (.directory d)) :
    (s.readDirectory files h).reply =
      if d.listed then .status .eof
      else match files.list s.current d.path with
        | .ok entries => .names (entries.map fun e => (e.1, files.attributes? e.2))
        | .error e => .fault e := by
  have current : (s.update h (.directory { d with listed := true })).current = s.current := rfl
  unfold readDirectory
  rw [found]
  dsimp only
  by_cases listed : d.listed = true
  · rw [if_pos listed, if_pos listed]
    rfl
  · rw [if_neg listed, if_neg listed, current]
    cases files.list s.current d.path with
    | error e => rfl
    | ok entries => rfl

/-- Only directories are listed. -/
theorem directory_of_listed {entries : List (String × Option FileSystem.Attributes)}
    (listed : (s.readDirectory files h).reply = .names entries) :
    ∃ d, s.handles.get? h = some (.directory d) := by
  unfold readDirectory at listed
  cases hh : s.handles.get? h with
  | none =>
    rw [hh] at listed
    cases listed
  | some entry =>
    cases entry with
    | directory d => exact ⟨d, rfl⟩
    | file file =>
      rw [hh] at listed
      cases listed

end Server

/-- A listing has every entry of the directory, and each of them once. -/
theorem list_perm {files : FileSystem} {current : Trail} {path : String}
    {entries : List (String × NodeId)} (listed : files.list current path = .ok entries) :
    ∃ trail dir, files.resolve current true path = .ok trail ∧
      files.entries? trail.node = some dir ∧ entries.Perm dir.entries := by
  unfold FileSystem.list at listed
  cases hr : files.resolve current true path with
  | error e =>
    rw [hr] at listed
    cases listed
  | ok trail =>
    rw [hr] at listed
    cases he : files.entries? trail.node with
    | none =>
      simp only [bind, Except.bind, he] at listed
      cases listed
    | some dir =>
      simp only [bind, Except.bind, he] at listed
      obtain rfl := Except.ok.inj listed
      exact ⟨trail, dir, rfl, he, List.mergeSort_perm _ _⟩

/-! ## What handles in use are good for -/

/-- The place that paths start from is the same throughout a session. -/
theorem place_of_mem_exchanges {s : Server} {asked : List (FileSystem × Request)} {x : Exchange}
    (hx : x ∈ s.exchanges asked) : x.server.root = s.root ∧ x.server.current = s.current := by
  induction asked generalizing s with
  | nil => cases hx
  | cons a rest ih =>
    rcases List.mem_cons.mp hx with rfl | hx
    · exact ⟨rfl, rfl⟩
    · have after := ih hx
      have now := (s.change_handle a.1 a.2).place
      exact ⟨after.1.trans now.1, after.2.trans now.2⟩

/-- What stands in the table for an open file. -/
theorem Stands.of_file {h : String} {x : Exchange} {since : List Exchange} {file : OpenFile}
    (stands : Stands h x since (.file file)) :
    ∃ path access, x.request = .openFile path access := by
  obtain ⟨first, opens, subject⟩ := stands.opened
  generalize x.request = r at opens ⊢
  cases opens with
  | file opened => exact ⟨_, _, rfl⟩
  | directory found kind => cases subject

/-- What stands in the table for an open directory. -/
theorem Stands.of_directory {h : String} {x : Exchange} {since : List Exchange}
    {d : OpenDirectory} (stands : Stands h x since (.directory d)) :
    ∃ path, x.request = .openDirectory path ∧ d.path = x.server.resolve path := by
  obtain ⟨first, opens, subject⟩ := stands.opened
  generalize x.request = r at opens ⊢
  cases opens with
  | file opened => cases subject
  | directory found kind => exact ⟨_, rfl, Subject.directory.inj subject⟩

/-- The handle of a directory stands for it in the table. -/
theorem Stands.of_openDirectory {h : String} {x : Exchange} {since : List Exchange} {entry : Entry}
    {path : String} (stands : Stands h x since entry) (hx : x.request = .openDirectory path) :
    ∃ d, entry = .directory d ∧ d.path = x.server.resolve path ∧
      (d.listed = true ↔ ∃ y ∈ since, y.request = .readDirectory h) := by
  obtain ⟨first, opens, subject⟩ := stands.opened
  rw [hx] at opens
  cases opens with
  | directory found kind =>
    cases entry with
    | file file => cases subject
    | directory d => exact ⟨d, rfl, Subject.directory.inj subject, stands.listed d rfl⟩

namespace Accounted

variable {s t : Server} {asked : List (FileSystem × Request)} {h : String}

/-- Paths start from the same place when a directory is opened and when it is listed. -/
theorem resolve_of_live {x : Exchange} {since : List Exchange}
    (live : Live (s.exchanges asked) h x since) (path : String) :
    x.server.resolve path = s.resolve path := by
  obtain ⟨earlier, split⟩ := live.split
  have placed : x ∈ s.exchanges asked := by
    rw [split]
    exact List.mem_append_right _ List.mem_cons_self
  unfold Server.resolve
  rw [(place_of_mem_exchanges placed).1]

variable (a : Accounted s (s.exchanges asked) t)

include a

theorem usable (h : String) :
    (t.handles.get? h).isSome = true ↔ ∃ x since, Live (s.exchanges asked) h x since := by
  constructor
  · intro used
    obtain ⟨entry, found⟩ := Option.isSome_iff_exists.mp used
    obtain ⟨x, since, live, -⟩ := a.found h entry found
    exact ⟨x, since, live⟩
  · rintro ⟨x, since, live⟩
    obtain ⟨entry, found, -⟩ := a.kept h x since live
    exact Option.isSome_iff_exists.mpr ⟨entry, found⟩

/-- The handle of a file was given out when a file was opened. -/
theorem opened_of_file {file : OpenFile} (found : t.file? h = some file) :
    ∃ x since path access, Live (s.exchanges asked) h x since ∧
      x.request = .openFile path access := by
  obtain ⟨x, since, live, stands⟩ := a.found h _ (Server.file?_eq_some.mp found)
  obtain ⟨path, access, hx⟩ := stands.of_file
  exact ⟨x, since, path, access, live, hx⟩

/-- A listing that succeeds is the first, and has every entry of the directory once. -/
theorem lists {files : FileSystem} {entries : List (String × Option FileSystem.Attributes)}
    (listed : (t.readDirectory files h).reply = .names entries) :
    ∃ x since path trail dir, Live (s.exchanges asked) h x since ∧
      x.request = .openDirectory path ∧ (∀ y ∈ since, y.request ≠ .readDirectory h) ∧
      files.resolve s.current true (s.resolve path) = .ok trail ∧
      files.entries? trail.node = some dir ∧
      entries.Perm (dir.entries.map fun e => (e.1, files.attributes? e.2)) := by
  obtain ⟨d, found⟩ := Server.directory_of_listed listed
  obtain ⟨x, since, live, stands⟩ := a.found h _ found
  obtain ⟨path, hx, hpath⟩ := stands.of_directory
  have answer := Server.reply_readDirectory files found
  rw [hpath, resolve_of_live live path, a.place.2] at answer
  by_cases again : d.listed = true
  · rw [if_pos again] at answer
    cases listed.symm.trans answer
  · rw [if_neg again] at answer
    cases hl : files.list s.current (s.resolve path) with
    | error e =>
      rw [hl] at answer
      cases listed.symm.trans answer
    | ok all =>
      rw [hl] at answer
      obtain rfl := Reply.names.inj (listed.symm.trans answer)
      obtain ⟨trail, dir, hr, hd, perm⟩ := list_perm hl
      refine ⟨x, since, path, trail, dir, live, hx, fun y hy list => ?_, hr, hd, perm.map _⟩
      exact again ((stands.listed d rfl).mpr ⟨y, hy, list⟩)

/-- What a listing by the handle of a directory comes to goes by whether it is the first. -/
theorem reply_of_openDirectory {x : Exchange} {since : List Exchange} {path : String}
    (live : Live (s.exchanges asked) h x since) (hx : x.request = .openDirectory path)
    (files : FileSystem) :
    ((∃ y ∈ since, y.request = .readDirectory h) ∧
      (t.readDirectory files h).reply = .status .eof) ∨
    ((∀ y ∈ since, y.request ≠ .readDirectory h) ∧
      ∀ entries, files.list s.current (s.resolve path) = .ok entries →
        (t.readDirectory files h).reply =
          .names (entries.map fun e => (e.1, files.attributes? e.2))) := by
  obtain ⟨entry, found, stands⟩ := a.kept h x since live
  obtain ⟨d, rfl, hpath, again⟩ := stands.of_openDirectory hx
  have answer := Server.reply_readDirectory files found
  rw [hpath, resolve_of_live live path, a.place.2] at answer
  by_cases before : d.listed = true
  · rw [if_pos before] at answer
    exact .inl ⟨again.mp before, answer⟩
  · rw [if_neg before] at answer
    refine .inr ⟨fun y hy list => before (again.mpr ⟨y, hy, list⟩), fun entries listed => ?_⟩
    rw [listed] at answer
    exact answer

end Accounted

/-- What cannot be opened leaves the session as it is. -/
theorem Server.server_of_unopened (t : Server) (files : FileSystem) {r : Request}
    (opening : (∃ path access, r = .openFile path access) ∨ ∃ path, r = .openDirectory path)
    (quiet : (t.handle files r).reply.handle? = none) : (t.handle files r).server = t := by
  have change := t.change_handle files r
  generalize (t.handle files r).reply = reply at change quiet
  generalize (t.handle files r).server = t' at change ⊢
  cases change with
  | nothing => rfl
  | issued => cases quiet
  | _ =>
    obtain ⟨_, _, h⟩ | ⟨_, h⟩ := opening
    · cases h
    · cases h

/-! ## All of it -/

/-- How handles fare in a session that begins as `s` and is asked for `asked`, and with the
request after that. -/
structure HandlesKept (s : Server) (asked : List (FileSystem × Request)) : Prop where
  /-- No handle is given out twice. -/
  distinct : ((s.exchanges asked).filterMap (·.issued?)).Nodup
  /-- Handles are numbered in the order in which they are given out. -/
  numbered : (s.exchanges asked).filterMap (·.issued?) =
    (List.range (s.after asked).issued).map fun n => handleName (n + 1)
  /-- The handles in use are those that were given out and that nobody has asked to take back
  since. -/
  usable : ∀ h, ((s.after asked).handles.get? h).isSome = true ↔
    ∃ x since, Live (s.exchanges asked) h x since
  /-- A handle in use stands for what was opened when it was given out. -/
  stands_for : ∀ h x since, Live (s.exchanges asked) h x since →
    ∃ entry first, (s.after asked).handles.get? h = some entry ∧
      x.server.Opens x.files x.request first ∧ entry.subject = first.subject
  /-- A request by any other handle fails, and changes nothing. -/
  unusable : ∀ h, (∀ x since, ¬ Live (s.exchanges asked) h x since) →
    ∀ files r, r.handle? = some h →
      (s.after asked).handle files r = ⟨s.after asked, files, .status .failure⟩
  /-- Bytes are read by handles of files. -/
  reads : ∀ h files offset count bytes,
    ((s.after asked).handle files (.read h offset count)).reply = .data bytes →
    ∃ x since path access, Live (s.exchanges asked) h x since ∧ x.request = .openFile path access
  /-- Bytes are written by handles of files. -/
  writes : ∀ h files offset data,
    ((s.after asked).handle files (.write h offset data)).reply = .status .ok →
    ∃ x since path access, Live (s.exchanges asked) h x since ∧ x.request = .openFile path access
  /-- Directories are listed by handles of directories. A listing that succeeds is the first,
  and has every entry of the directory once. -/
  lists : ∀ h files entries,
    ((s.after asked).handle files (.readDirectory h)).reply = .names entries →
    ∃ x since path trail dir, Live (s.exchanges asked) h x since ∧
      x.request = .openDirectory path ∧ (∀ y ∈ since, y.request ≠ .readDirectory h) ∧
      files.resolve s.current true (s.resolve path) = .ok trail ∧
      files.entries? trail.node = some dir ∧
      entries.Perm (dir.entries.map fun e => (e.1, files.attributes? e.2))
  /-- The first listing succeeds if the directory can be listed. -/
  first : ∀ h x since path, Live (s.exchanges asked) h x since → x.request = .openDirectory path →
    (∀ y ∈ since, y.request ≠ .readDirectory h) →
    ∀ files entries, files.list s.current (s.resolve path) = .ok entries →
      ((s.after asked).handle files (.readDirectory h)).reply =
        .names (entries.map fun e => (e.1, files.attributes? e.2))
  /-- Afterwards there is nothing more to list. -/
  once : ∀ h x since path, Live (s.exchanges asked) h x since → x.request = .openDirectory path →
    (∃ y ∈ since, y.request = .readDirectory h) →
    ∀ files, ((s.after asked).handle files (.readDirectory h)).reply = .status .eof
  /-- What cannot be opened uses up no handle. -/
  unopened : ∀ files r, (∃ path access, r = .openFile path access) ∨
      (∃ path, r = .openDirectory path) →
    ((s.after asked).handle files r).reply.handle? = none →
    ((s.after asked).handle files r).server = s.after asked

/-- **Handles are kept apart**, whatever is asked for and whatever the files answer. -/
theorem handles_kept (root : String) (current : Trail) (asked : List (FileSystem × Request)) :
    HandlesKept { root, current } asked := by
  let s : Server := { root, current }
  have a : Accounted s (s.exchanges asked) (s.after asked) :=
    (Accounted.start s rfl rfl).run asked
  constructor
  case numbered => exact a.issued
  case distinct =>
    rw [a.issued]
    refine List.Nodup.map ?_ List.nodup_range
    intro m n same
    exact Nat.succ.inj (handleName_inj.mp same)
  case usable => exact a.usable
  case stands_for =>
    intro h x since live
    obtain ⟨entry, found, stands⟩ := a.kept h x since live
    obtain ⟨first, opens, subject⟩ := stands.opened
    exact ⟨entry, first, found, opens, subject⟩
  case unusable =>
    intro h dead files r hr
    refine Server.handle_of_unknown hr (Option.eq_none_iff_forall_ne_some.mpr fun entry found => ?_)
    obtain ⟨x, since, live, -⟩ := a.found h entry found
    exact dead x since live
  case reads =>
    intro h files offset count bytes read
    obtain ⟨_, found⟩ := Server.file?_of_read read
    exact a.opened_of_file found
  case writes =>
    intro h files offset data written
    obtain ⟨_, found⟩ := Server.file?_of_write written
    exact a.opened_of_file found
  case lists => exact fun h files entries => a.lists
  case first =>
    intro h x since path live hx unlisted files entries listed
    obtain ⟨⟨y, hy, list⟩, -⟩ | ⟨-, answer⟩ := a.reply_of_openDirectory live hx files
    · exact absurd list (unlisted y hy)
    · exact answer entries listed
  case once =>
    intro h x since path live hx ⟨y, hy, list⟩ files
    obtain ⟨-, answer⟩ | ⟨unlisted, -⟩ := a.reply_of_openDirectory live hx files
    · exact answer
    · exact absurd list (unlisted y hy)
  case unopened => exact fun files r => (s.after asked).server_of_unopened files

end ShellGateway.Sftp
