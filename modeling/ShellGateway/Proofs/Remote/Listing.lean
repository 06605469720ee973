import Mathlib.Data.List.Nodup
import ShellGateway.Proofs.Programs.Environment
import ShellGateway.Remote.Transfer

/-!
# Listings of remote directories

A listing shows every entry that the file server gave, once and with its own size and time,
but not the directory itself and its parent. Directories come before all else, and within
each kind the entries are in the order of their names' bytes (`Shows`).

If no two of the entries have the same name, then there is only one way to show them
(`Shows.unique`). So a listing does not depend on the order in which the file server gave
its entries, which no protocol promises: `listing_order`.
-/

namespace ShellGateway.Remote

/-- The entries that are shown to web clients. -/
def shownEntries (given : List DirectoryEntry) : List DirectoryEntry :=
  given.filter fun e => e.name ≠ "." ∧ e.name ≠ ".."

/-- What a listing of some entries looks like. -/
structure Shows (given : List DirectoryEntry) (shown : List EntryView) : Prop where
  /-- Each entry is shown once, with what it says itself; an unknown size is shown as zero. -/
  each : shown.Perm ((shownEntries given).map fun e =>
    { name := e.name
      isDirectory := e.attributes.isDirectory
      size := e.attributes.size.getD 0
      modified := e.attributes.modified })
  directories_first : shown.Pairwise fun a b => b.isDirectory = true → a.isDirectory = true
  by_name : shown.Pairwise fun a b =>
    a.isDirectory = b.isDirectory → Bytes.ofText a.name ≤ Bytes.ofText b.name

/-! ## The order of entries -/

namespace EntryView

variable {a b c : EntryView}

/-- An entry comes before another by its kind and, within a kind, by its name. -/
theorem le_iff : le a b = true ↔ (b.isDirectory = true → a.isDirectory = true) ∧
    (a.isDirectory = b.isDirectory → Bytes.ofText a.name ≤ Bytes.ofText b.name) := by
  unfold le
  by_cases same : a.isDirectory = b.isDirectory
  · rw [if_pos same, Programs.nameLe_iff, same]
    simp
  · rw [if_neg same]
    cases ha : a.isDirectory <;> cases hb : b.isDirectory <;> simp_all

theorem le_trans (hab : le a b = true) (hbc : le b c = true) : le a c = true := by
  rw [le_iff] at *
  refine ⟨fun hc => hab.1 (hbc.1 hc), fun same => ?_⟩
  -- whatever stands between two entries of one kind is of that kind
  have between : a.isDirectory = b.isDirectory :=
    Bool.eq_iff_iff.mpr ⟨fun ha => hbc.1 (same ▸ ha), hab.1⟩
  exact List.le_trans (hab.2 between) (hbc.2 (between.symm.trans same))

theorem le_total (a b : EntryView) : (le a b || le b a) = true := by
  rw [Bool.or_eq_true]
  unfold le
  by_cases same : a.isDirectory = b.isDirectory
  · rw [if_pos same, if_pos same.symm, Programs.nameLe_iff, Programs.nameLe_iff]
    exact List.le_total _ _
  · rw [if_neg same, if_neg (Ne.symm same)]
    cases ha : a.isDirectory <;> cases hb : b.isDirectory <;> simp_all

/-- Of two entries that may stand in either order, the names are the same. -/
theorem name_eq_of_le (hab : le a b = true) (hba : le b a = true) : a.name = b.name := by
  rw [le_iff] at *
  have same : a.isDirectory = b.isDirectory := Bool.eq_iff_iff.mpr ⟨hba.1, hab.1⟩
  exact Bytes.ofText_injective (List.le_antisymm (hab.2 same) (hba.2 same.symm))

end EntryView

/-! ## Listings -/

namespace Shows

variable {given given' : List DirectoryEntry} {xs ys : List EntryView}

theorem ordered (shows : Shows given xs) : xs.Pairwise fun a b => a.le b = true :=
  (shows.directories_first.and shows.by_name).imp EntryView.le_iff.mpr

/-- The names of what is shown. -/
theorem names (shows : Shows given xs) :
    (xs.map (·.name)).Perm ((shownEntries given).map (·.name)) := by
  have names := shows.each.map (·.name)
  rwa [List.map_map] at names

/-- **Entries with different names are shown in one way**, in whatever order they are given. -/
theorem unique (first : Shows given xs) (second : Shows given' ys) (same : given'.Perm given)
    (distinct : ((shownEntries given).map (·.name)).Nodup) : xs = ys := by
  have perm : xs.Perm ys :=
    first.each.trans ((second.each.trans ((same.filter _).map _)).symm)
  have once : (xs.map (·.name)).Nodup := first.names.nodup_iff.mpr distinct
  refine List.Perm.eq_of_pairwise (fun a b ha hb hab hba => ?_) first.ordered second.ordered perm
  -- an entry is known by its name
  exact List.inj_on_of_nodup_map once ha (perm.mem_iff.mpr hb) (EntryView.name_eq_of_le hab hba)

end Shows

/-- The listing of some entries shows them. -/
theorem shows_ofEntries (path : String) (given : List DirectoryEntry) :
    Shows given (Listing.ofEntries path given).entries := by
  have ordered : (Listing.ofEntries path given).entries.Pairwise fun a b => a.le b = true := by
    refine List.pairwise_mergeSort (fun a b c hab hbc => ?_) (fun a b => ?_) _
    · exact EntryView.le_trans hab hbc
    · exact EntryView.le_total a b
  have kept : given.filter (!·.isDot) = shownEntries given := by
    refine List.filter_congr fun e _ => ?_
    rw [Bool.eq_iff_iff]
    simp [DirectoryEntry.isDot]
  constructor
  case each =>
    rw [← kept]
    exact List.mergeSort_perm _ _
  case directories_first => exact ordered.imp fun le => (EntryView.le_iff.mp le).1
  case by_name => exact ordered.imp fun le => (EntryView.le_iff.mp le).2

/-- A directory that the file server lists is listed. -/
theorem Peer.list_of_granted {σ : Type} {p : Peer σ} {path : String} {s s' : σ}
    {given : List DirectoryEntry} (granted : p.readDirectory path s = (.ok given, s')) :
    p.list path s = (.ok (.ofEntries path given), s') := by
  unfold list Asked.orFail
  rw [granted]
  rfl

/-- **A listing shows what the file server gave**, directories first and by name; and if the
names differ, then it shows the same when any server gives the same entries in any order. -/
theorem listing_order {σ : Type} (p : Peer σ) (path : String) (s s' : σ)
    (given : List DirectoryEntry) (granted : p.readDirectory path s = (.ok given, s')) :
    ∃ listing, p.list path s = (.ok listing, s') ∧ Shows given listing.entries ∧
      (((shownEntries given).map (·.name)).Nodup →
        ∀ (τ : Type) (q : Peer τ) (path' : String) (t t' : τ) (given' : List DirectoryEntry),
          q.readDirectory path' t = (.ok given', t') → given'.Perm given →
            ∃ listing', q.list path' t = (.ok listing', t') ∧
              listing'.entries = listing.entries) := by
  refine ⟨_, Peer.list_of_granted granted, shows_ofEntries path given, ?_⟩
  intro distinct τ q path' t t' given' granted' same
  refine ⟨_, Peer.list_of_granted granted', ?_⟩
  exact ((shows_ofEntries path given).unique (shows_ofEntries path' given') same distinct).symm

/-- A file server that has one directory and grants nothing but to list it. -/
def shelf (given : List DirectoryEntry) : Peer Unit where
  readDirectory _ := fun s => (.ok given, s)
  openToRead _ := fun s => (.error .permissionDenied, s)
  readToEnd _ := fun s => (.error .permissionDenied, s)
  create _ := fun s => (.error .permissionDenied, s)
  writeAll _ _ := fun s => (.error .permissionDenied, s)
  finish _ := fun s => (.error .permissionDenied, s)
  makeDirectory _ := fun s => (.error .permissionDenied, s)
  stat _ := fun s => (.error .permissionDenied, s)
  removeDirectory _ := fun s => (.error .permissionDenied, s)
  removeFile _ := fun s => (.error .permissionDenied, s)

/-- Two directories and two files, with the directory itself. -/
def home : List DirectoryEntry :=
  [⟨"b", { isDirectory := false, size := some 3, modified := some 7 }⟩,
    ⟨"z", { isDirectory := true }⟩, ⟨".", { isDirectory := true }⟩,
    ⟨"Z", { isDirectory := false }⟩, ⟨"é", { isDirectory := true, modified := some 9 }⟩]

theorem listing_order_home :
    (shelf home).readDirectory "/home" () = (.ok home, ()) ∧
      ((shownEntries home).map (·.name)).Nodup ∧
      (shelf home.reverse).readDirectory "." () = (.ok home.reverse, ()) ∧
      home.reverse.Perm home ∧
      ∃ listing, (shelf home).list "/home" () = (.ok listing, ()) ∧ Shows home listing.entries ∧
        ∃ listing', (shelf home.reverse).list "." () = (.ok listing', ()) ∧
          listing'.entries = listing.entries := by
  have distinct : ((shownEntries home).map (·.name)).Nodup := by decide
  have same : home.reverse.Perm home := List.reverse_perm home
  obtain ⟨listing, listed, shows, again⟩ := listing_order (shelf home) "/home" () () home rfl
  exact ⟨rfl, distinct, rfl, same, listing, listed, shows,
    again distinct Unit (shelf home.reverse) "." () () home.reverse rfl same⟩

/-- The directories are shown before the files, and a capital letter before a small one. -/
example : (Listing.ofEntries "/home" home).entries =
    [⟨"z", true, 0, none⟩, ⟨"é", true, 0, some 9⟩, ⟨"Z", false, 0, none⟩,
      ⟨"b", false, 3, some 7⟩] := by
  cbv

end ShellGateway.Remote
