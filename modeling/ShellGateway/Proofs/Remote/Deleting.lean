import Mathlib
import ShellGateway.Proofs.Files.Removal
import ShellGateway.Remote.Transfer

/-!
# Deleting on a remote host

A file server shares files, and answers requests about a path from them (`Peer.Shares`). Then
whoever deletes what a path names takes away that entry and nothing else, or is told which
request was refused and has changed nothing: `deletes_removable`.

What cannot be deleted is not only what is missing and a directory that is not empty. To delete
is to look first, and who looks at a link sees what it leads to. A link to a directory is
therefore asked for as a directory, which it is not, and a link to nothing is not found at all:
`link_stays`.
-/

namespace ShellGateway.Remote

open Files (FileSystem Fault Trail NodeId newDirectoryMode newFileMode)
open Sftp (Status Server)

variable {σ : Type}

/-! ## What a file server shares -/

/-- Files, the directory that relative paths start from, and the path that a request means. -/
structure Share where
  files : FileSystem
  base : Trail
  meaning : String → String

/-- How a request to change the files is answered, given what the change would come to: it is
granted and done, or refused for some reason with nothing done. -/
inductive Changes {ε : Type} (share : σ → Share) (before : Share) (why : ε → Prop) :
    Except Fault FileSystem → Except ε Unit × σ → Prop where
  | granted {files : FileSystem} {s : σ} (after : share s = { before with files }) :
      Changes share before why (.ok files) (.ok (), s)
  | refused {fault : Fault} {e : ε} {s : σ} (reason : why e) (after : share s = before) :
      Changes share before why (.error fault) (.error e, s)

/-- How a request to look at something is answered, given what is there. -/
inductive Tells : Except Fault FileSystem.Attributes → Except Status Attributes → Prop where
  | told {there : FileSystem.Attributes} {told : Attributes}
      (same : told.isDirectory = true ↔ there.kind = .directory) : Tells (.ok there) (.ok told)
  | refused {fault : Fault} {code : Status} : Tells (.error fault) (.error code)

/-- A file server shares files: it looks at a file through links, and takes away empty directories
by one request and all that is no directory, links included, by another. -/
structure Peer.Shares (p : Peer σ) (share : σ → Share) : Prop where
  stat : ∀ path s, share (p.stat path s).2 = share s ∧
    Tells ((share s).files.stat (share s).base true ((share s).meaning path)) (p.stat path s).1
  removeDirectory : ∀ path s, Changes share (share s) (fun _ => True)
    ((share s).files.rmdir (share s).base ((share s).meaning path)) (p.removeDirectory path s)
  removeFile : ∀ path s, Changes share (share s) (fun _ => True)
    ((share s).files.unlink (share s).base ((share s).meaning path)) (p.removeFile path s)

/-! ## Deleting -/

/-- A failure that says which of the requests that delete something was refused. -/
def NotDeleted (path : String) (why : Failure) : Prop :=
  ∃ request ∈ ["stat", "rmdir", "remove"], ∃ code, why = refusal request path code

/-- An operation that ends with one request is answered as the request is. -/
theorem Changes.orFail {share : σ → Share} {before : Share} {result : Except Fault FileSystem}
    {asked : Asked σ Unit} {s : σ} (changes : Changes share before (fun _ => True) result (asked s))
    {request : String} (path : String) (named : request ∈ ["stat", "rmdir", "remove"]) :
    Changes share before (NotDeleted path) result (asked.orFail request path .result s) := by
  unfold Asked.orFail
  generalize asked s = answer at changes
  cases changes with
  | granted after => exact .granted after
  | refused _ after => exact .refused ⟨request, named, _, rfl⟩ after

/-- **To delete is to look first**, and then to remove what was seen. -/
theorem Peer.Shares.delete {p : Peer σ} {share : σ → Share} (shares : p.Shares share)
    (path : String) (s : σ) : Changes share (share s) (NotDeleted path)
      ((share s).files.remove (share s).base ((share s).meaning path)) (p.delete path s) := by
  obtain ⟨seen, tells⟩ := shares.stat path s
  unfold Peer.delete Asked.orFail FileSystem.remove
  generalize p.stat path s = answer at seen tells
  generalize (share s).files.stat (share s).base true ((share s).meaning path) = there at tells
  obtain ⟨answer, s'⟩ := answer
  rw [← seen]
  cases tells with
  | refused => exact .refused ⟨"stat", by simp, _, rfl⟩ rfl
  | @told there told same =>
    dsimp only
    by_cases directory : there.kind = .directory
    · rw [if_pos directory, if_pos (same.mpr directory)]
      exact (shares.removeDirectory path s').orFail path (by simp)
    · rw [if_neg directory, if_neg (mt same.mp directory)]
      exact (shares.removeFile path s').orFail path (by simp)

/-- What comes of deleting what a path names: the answer, and what is shared afterwards. -/
structure Deletion (before : Share) (path : String) (answer : Except Failure Unit) (after : Share) :
    Prop where
  /-- What is removable is taken away, and nothing else. -/
  removed : ∀ parent name id,
    before.files.Names before.base (before.meaning path) parent name id →
    before.files.Removable before.base (before.meaning path) id →
      answer = .ok () ∧ after = { before with files := after.files } ∧
        before.files.Unnamed after.files parent.node name
  /-- Otherwise nothing is taken away, and the failure says which request was refused. -/
  kept : (∀ parent name id, before.files.Names before.base (before.meaning path) parent name id →
      ¬ before.files.Removable before.base (before.meaning path) id) →
    (∃ why, answer = .error why ∧ NotDeleted path why) ∧ after = before

/-- **What is removable can be deleted, and nothing else**; and a deletion does nothing but take
one entry away. -/
theorem deletes_removable (p : Peer σ) (share : σ → Share) (shares : p.Shares share) (path : String)
    (s : σ) : Deletion (share s) path (p.delete path s).1 (share (p.delete path s).2) := by
  have changes := shares.delete path s
  generalize p.delete path s = outcome at changes
  constructor
  case removed =>
    intro parent name id names removable
    rw [FileSystem.remove_eq_ok_iff.mpr ⟨parent, name, id, names, removable, rfl⟩] at changes
    cases changes with
    | granted after =>
      rw [after]
      exact ⟨rfl, rfl, FileSystem.unnamed_unbind names.child⟩
  case kept =>
    intro none
    cases result : (share s).files.remove (share s).base ((share s).meaning path) with
    | ok files =>
      obtain ⟨parent, name, id, names, removable, -⟩ := FileSystem.remove_eq_ok_iff.mp result
      exact absurd removable (none parent name id names)
    | error fault =>
      rw [result] at changes
      cases changes with
      | refused reason after => exact ⟨⟨_, rfl, reason⟩, after⟩

/-! ## The daemon's own files -/

namespace Peer

/-- What the daemon's file server shares. -/
def Served.share (s : Served) : Share := ⟨s.2, s.1.current, s.1.resolve⟩

/-- No fault is told as success. -/
theorem asked_of_fault {s : Served} {r : Sftp.Request} {fault : Fault} {s' : Served}
    (refused : ask r s = (.fault fault, s')) : asked r s = (.error (.ofFault fault), s') := by
  unfold asked
  rw [refused]
  cases fault <;> rfl

theorem changes_asked (s : Served) {r : Sftp.Request} {result : Except Fault FileSystem}
    (handled : s.1.handle s.2 r = s.1.change s.2 result) :
    Changes Served.share s.share (fun _ => True) result (asked r s) := by
  cases result with
  | ok files =>
    rw [asked, ask, handled]
    exact .granted rfl
  | error fault =>
    rw [asked_of_fault (by rw [ask, handled]; rfl)]
    exact .refused trivial rfl

/-- **The daemon's file server shares its files.** -/
theorem shares_served : served.Shares Served.share := by
  constructor
  case stat =>
    intro path s
    show Served.share (askedAttributes (.stat path true) s).2 = _ ∧
      Tells (s.2.stat s.1.current true (s.1.resolve path)) (askedAttributes (.stat path true) s).1
    cases there : s.2.stat s.1.current true (s.1.resolve path) with
    | ok attributes =>
      have told : ask (.stat path true) s = (.attributes attributes, s) := by
        rw [ask, Server.handle, Server.stat, there]
        rfl
      rw [askedAttributes, told]
      exact ⟨rfl, .told decide_eq_true_iff⟩
    | error fault =>
      have refused : ask (.stat path true) s = (.fault fault, s) := by
        rw [ask, Server.handle, Server.stat, there]
        rfl
      rw [askedAttributes, refused]
      exact ⟨rfl, .refused⟩
  case removeDirectory => exact fun path s => changes_asked s rfl
  case removeFile => exact fun path s => changes_asked s rfl

end Peer

/-- A directory and a file, a link to each of them, and a link to nothing. -/
def linkedFiles : FileSystem where
  nodes := ⟨[(0, .directory ⟨[("d", 1), ("f", 2), ("k", 3), ("l", 4), ("n", 5)]⟩ newDirectoryMode),
    (1, .directory ⟨[]⟩ newDirectoryMode), (2, .file [7] newFileMode), (3, .link "d"),
    (4, .link "f"), (5, .link "x")]⟩
  next := 6

/-- A session that serves them. -/
def linkedSession : Peer.Served := ({ root := "/" }, linkedFiles)

theorem names_linkedFiles : ∀ entry ∈ [("d", 1), ("f", 2), ("k", 3), ("l", 4), ("n", 5)],
    linkedFiles.Names [] (Server.resolve { root := "/" } entry.1) [] entry.1 entry.2 := by
  have place (name : String) (found : linkedFiles.resolveParent []
      (Server.resolve { root := "/" } name) = .ok ([], .name name false)) {id : NodeId}
      (child : linkedFiles.child 0 name = .ok id) :
      linkedFiles.Names [] (Server.resolve { root := "/" } name) [] name id :=
    ⟨⟨false, found, nofun⟩, child⟩
  simp only [List.forall_mem_cons, List.not_mem_nil, false_imp_iff, implies_true, and_true]
  refine ⟨place "d" ?_ ?_, place "f" ?_ ?_, place "k" ?_ ?_, place "l" ?_ ?_, place "n" ?_ ?_⟩
  all_goals cbv

/-- The link to the empty directory and the link to nothing are not removable. -/
theorem not_removable_linkedFiles : ∀ link ∈ ["k", "n"], ∀ parent name id,
    linkedFiles.Names [] (Server.resolve { root := "/" } link) parent name id →
      ¬ linkedFiles.Removable [] (Server.resolve { root := "/" } link) id := by
  have onto : linkedFiles.stat [] true "/k" = .ok ⟨.directory, 4096, 0o40755⟩ := by cbv
  have nowhere : linkedFiles.stat [] true "/n" = .error .notFound := by cbv
  intro link mem parent name id names removable
  simp only [List.mem_cons, List.not_mem_nil, or_false] at mem
  rcases mem with rfl | rfl
  · obtain ⟨-, -, rfl⟩ := (names_linkedFiles ("k", 3) (by simp)).unique names
    obtain ⟨attributes, led, other⟩ := (FileSystem.removable_link_iff rfl).mp removable
    cases onto.symm.trans led
    exact other rfl
  · obtain ⟨-, -, rfl⟩ := (names_linkedFiles ("n", 5) (by simp)).unique names
    obtain ⟨attributes, led, -⟩ := (FileSystem.removable_link_iff rfl).mp removable
    cases nowhere.symm.trans led

/-- The link to the file can be deleted, and the other two stay. -/
theorem deletes_removable_linkedFiles : Peer.served.Shares Peer.Served.share ∧
    ((Peer.served.delete "l" linkedSession).1 = .ok () ∧
      linkedFiles.Unnamed (Peer.served.delete "l" linkedSession).2.share.files 0 "l") ∧
    ∀ link ∈ ["k", "n"],
      (∃ why, (Peer.served.delete link linkedSession).1 = .error why ∧ NotDeleted link why) ∧
        (Peer.served.delete link linkedSession).2.share = linkedSession.share := by
  have leads : linkedFiles.stat [] true "/l" = .ok ⟨.file, 1, 0o100644⟩ := by cbv
  have deletions (path : String) :=
    deletes_removable Peer.served Peer.Served.share Peer.shares_served path linkedSession
  refine ⟨Peer.shares_served, ?_, fun link mem => ?_⟩
  · obtain ⟨granted, -, unnamed⟩ := (deletions "l").removed _ _ _
      (names_linkedFiles ("l", 4) (by simp)) (.link rfl leads (by decide))
    exact ⟨granted, unnamed⟩
  · exact (deletions link).kept (not_removable_linkedFiles link mem)

/-- **An entry that is no directory cannot always be deleted**: the link to the empty directory
stays. -/
theorem link_stays :
    ¬ ∀ (s : Peer.Served) (path : String) (parent : Trail) (name : String) (id : NodeId),
      s.2.Names s.1.current (s.1.resolve path) parent name id →
      (∀ entries, s.2.entries? id = some entries → entries.size = 0) →
        (Peer.served.delete path s).1 = .ok () := by
  intro all
  have deleted := all linkedSession "k" [] "k" 3 (names_linkedFiles ("k", 3) (by simp)) nofun
  have refused : (Peer.served.delete "k" linkedSession).1 =
      .error (refusal "rmdir" "k" .failure) := by
    cbv
  cases refused.symm.trans deleted

end ShellGateway.Remote
