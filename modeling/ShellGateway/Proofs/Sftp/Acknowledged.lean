import ShellGateway.Proofs.Sftp.Handles
import ShellGateway.Proofs.Sftp.RoundTrip

/-!
# What an acknowledged write says

A write is acknowledged when its last piece has been handed over to the file, and the
file may still refuse that piece: because it was not opened for writing, because there is
no space, because it would become too large. Such a write is acknowledged all the same.
`Server.WriteOutcome` lists everything that a write can come to.

So of the bytes of an acknowledged write a front part is in the file, and what is missing
is at most one piece. The handle owes word of what is missing (`Server.Owes`), and it
pays: the next write of bytes through it, or the request that closes it, is answered with
the refusal instead of doing its own work, whatever was asked for in between
(`Server.Owes.run`). A client that closes a handle, and has heard of no refusal by then,
has all that was acknowledged in the file. `acknowledged_write` puts this together, and
`unwritten_acknowledged` is a write that was acknowledged and is not in the file.

The files after a request are meant as the machine leaves them when it has done what was
handed over to it.
-/

namespace ShellGateway.Sftp

open Files
open FileSystem (sizeLimit positionLimit HandsOver overlay)

/-! ## Bytes that are handed over -/

namespace OpenFile

/-- The contents of a file when bytes were handed over to it for a place. A file that was
opened for appending takes them at its end. -/
def laid (file : OpenFile) (c : Bytes) (position : Nat) (bytes : Bytes) : Bytes :=
  if bytes.isEmpty then c
  else if file.access.append then c ++ bytes
  else overlay c position bytes

/-- The file has taken bytes for a place, and nothing else has changed. -/
structure Takes (file : OpenFile) (files : FileSystem) (position : Nat) (bytes : Bytes)
    (files' : FileSystem) : Prop where
  contents : ∀ c, files.contents? file.node = some c →
    files'.contents? file.node = some (file.laid c position bytes)
  within : ∀ c, files.contents? file.node = some c → file.access.append = false →
    bytes.isEmpty = false → position + bytes.length < sizeLimit
  others : ∀ node, node ≠ file.node → files'.nodes.get? node = files.nodes.get? node

variable {file : OpenFile} {files files' files'' : FileSystem} {position : Nat} {a b : Bytes}

theorem Takes.nothing (file : OpenFile) (files : FileSystem) (position : Nat) :
    file.Takes files position [] files where
  contents _ file := file
  within _ _ _ some := by cases some
  others _ _ := rfl

/-- A file takes bytes by being put back with them. -/
theorem Takes.of_put {c : Bytes} {mode : Nat}
    (found : files.nodes.get? file.node = some (.file c mode))
    (within : file.access.append = false → position + a.length < sizeLimit) :
    file.Takes files position a
      (files.put file.node (.file (file.laid c position a) mode)) where
  contents c' contents := by
    obtain ⟨mode', found'⟩ := FileSystem.contents?_eq_some.mp contents
    cases found.symm.trans found'
    exact FileSystem.contents?_put _ _ _ _
  within _ _ placed _ := within placed
  others node other := by rw [FileSystem.put, Dictionary.get?_insert, if_neg other]

/-- A device keeps nothing. -/
theorem Takes.of_device {which : Device}
    (found : files.nodes.get? file.node = some (.device which))
    (written : files.writeDevice which = .ok files') : file.Takes files position a files' := by
  have none : ∀ c, files.contents? file.node ≠ some c := by
    intro c contents
    obtain ⟨mode, found'⟩ := FileSystem.contents?_eq_some.mp contents
    cases found.symm.trans found'
  have same : files' = files := by
    cases which with
    | null | zero => exact (Except.ok.inj written).symm
    | full => cases written
  subst same
  exact ⟨fun c contents => absurd contents (none c), fun c contents => absurd contents (none c),
    fun _ _ => rfl⟩

/-- Bytes may be taken in two parts. -/
theorem Takes.append (first : file.Takes files position a files')
    (second : file.Takes files' (position + a.length) b files'') :
    file.Takes files position (a ++ b) files'' where
  contents c contents := by
    have laid : file.laid (file.laid c position a) (position + a.length) b =
        file.laid c position (a ++ b) := by
      unfold OpenFile.laid
      -- a part without bytes leaves no gap behind, so it is told apart
      cases a with
      | nil => simp
      | cons x a =>
        cases b with
        | nil => simp
        | cons y b =>
          cases file.access.append with
          | true => simp
          | false => exact FileSystem.overlay_overlay c position (x :: a) (y :: b)
    rw [second.contents _ (first.contents c contents), laid]
  within c contents placed some := by
    cases b with
    | nil =>
      rw [List.append_nil] at some ⊢
      exact first.within c contents placed some
    | cons y b =>
      have inside := second.within _ (first.contents c contents) placed rfl
      rw [List.length_append]
      omega
  others node other := (second.others node other).trans (first.others node other)

end OpenFile

namespace Server

variable {s t : Server} {files files' : FileSystem} {h : String} {file : OpenFile}
  {position offset : Nat} {data : Bytes} {e : Fault}

/-- Bytes that are not refused are taken. -/
theorem takes_of_handOver (some : data.isEmpty = false)
    (handed : handOver files file position data = .ok files') :
    file.Takes files position data files' := by
  have laid : ∀ c, file.laid c position data =
      if file.access.append then c ++ data else overlay c position data := by
    intro c
    rw [OpenFile.laid, some]
    rfl
  unfold handOver at handed
  split at handed
  case isTrue => cases handed
  case isFalse =>
    cases append : file.access.append with
    | true =>
      rw [append, if_pos rfl] at handed
      unfold FileSystem.appendTo at handed
      split at handed
      case h_1 c mode found =>
        have put : file.Takes files position data
            (files.put file.node (.file (file.laid c position data) mode)) :=
          .of_put found fun placed => by cases append.symm.trans placed
        rw [laid, append, if_pos rfl] at put
        exact Except.ok.inj handed ▸ put
      case h_2 which found => exact .of_device found handed
      case h_3 => cases handed
    | false =>
      rw [append, if_neg Bool.false_ne_true] at handed
      unfold FileSystem.writeAt at handed
      split at handed
      case isTrue => cases handed
      split at handed
      case h_1 c mode found =>
        split at handed
        case isTrue => cases handed
        case isFalse inside =>
          have put : file.Takes files position data
              (files.put file.node (.file (file.laid c position data) mode)) :=
            .of_put found fun _ => Nat.lt_of_not_le inside
          rw [laid, append, if_neg Bool.false_ne_true] at put
          exact Except.ok.inj handed ▸ put
      case h_2 which found => exact .of_device found handed
      case h_3 => cases handed

/-- What is left of bytes that were handed over piece by piece: nothing, or a rest of which
the first piece is refused. -/
inductive Remains (file : OpenFile) (files : FileSystem) (position : Nat) : Bytes → Fate → Prop where
  | nothing : Remains file files position [] .taken
  | lastPiece {rest : Bytes} {e : Fault} (some : rest.isEmpty = false)
      (one : rest.length ≤ pieceLimit) (refuses : handOver files file position rest = .error e) :
      Remains file files position rest (.refusedAtLast e)
  | morePieces {rest : Bytes} {e : Fault} (several : pieceLimit < rest.length)
      (refuses : handOver files file position (rest.take pieceLimit) = .error e) :
      Remains file files position rest (.refused e)

/-- **Of bytes that are handed over piece by piece, the file takes a front part**, and
refuses the piece after it, if there is one. -/
theorem handOverAll_remains (file : OpenFile) {pieces : Nat} (files : FileSystem) (position : Nat)
    {data : Bytes} (some : data.isEmpty = false) (enough : data.length ≤ pieces) :
    ∃ front rest, data = front ++ rest ∧
      file.Takes files position front (handOverAll file pieces files position data).1 ∧
      Remains file (handOverAll file pieces files position data).1 (position + front.length) rest
        (handOverAll file pieces files position data).2 := by
  have limit : 0 < pieceLimit := by decide
  -- one piece is cut off in each round; what comes of the rest is told of where that begins
  induction pieces generalizing files position data with
  | zero =>
    rw [List.eq_nil_of_length_eq_zero (Nat.le_zero.mp enough)] at some
    cases some
  | succ pieces ih =>
    have split : data = data.take pieceLimit ++ data.drop pieceLimit :=
      (List.take_append_drop ..).symm
    have positive : 0 < data.length :=
      List.length_pos_iff.mpr fun none => by rw [none] at some; cases some
    have piece : (data.take pieceLimit).isEmpty = false := by
      rw [← Bool.not_eq_true, List.isEmpty_iff, ← List.length_eq_zero_iff, List.length_take]
      omega
    unfold handOverAll
    cases handed : handOver files file position (data.take pieceLimit) with
    | ok files' =>
      have first := takes_of_handOver piece handed
      dsimp only
      cases last : (data.drop pieceLimit).isEmpty with
      | true =>
        rw [if_pos rfl]
        rw [List.isEmpty_iff.mp last, List.append_nil] at split
        rw [← split] at first
        exact ⟨data, [], (List.append_nil data).symm, first, .nothing⟩
      | false =>
        have more : pieceLimit < data.length := by
          rw [← Bool.not_eq_true, List.isEmpty_iff, List.drop_eq_nil_iff] at last
          omega
        have full : (data.take pieceLimit).length = pieceLimit := by
          rw [List.length_take]
          omega
        have fewer : (data.drop pieceLimit).length ≤ pieces := by
          rw [List.length_drop]
          omega
        rw [if_neg Bool.false_ne_true]
        obtain ⟨front, rest, parts, takes, remains⟩ := ih files' (position + pieceLimit) last fewer
        refine ⟨data.take pieceLimit ++ front, rest, ?_, ?_, ?_⟩
        · rw [List.append_assoc, ← parts, ← split]
        · exact first.append (full.symm ▸ takes)
        · rw [List.length_append, full, ← Nat.add_assoc]
          exact remains
    | error e =>
      -- nothing of the rest has been handed over, whether this was the last piece or not
      refine ⟨[], data, rfl, .nothing file files position, ?_⟩
      dsimp only [List.length_nil, Nat.add_zero]
      cases last : (data.drop pieceLimit).isEmpty with
      | true =>
        have one : data.length ≤ pieceLimit := List.drop_eq_nil_iff.mp (List.isEmpty_iff.mp last)
        rw [List.take_of_length_le one] at handed
        exact .lastPiece some one handed
      | false =>
        rw [← Bool.not_eq_true, List.isEmpty_iff, List.drop_eq_nil_iff] at last
        exact .morePieces (Nat.lt_of_not_le last) handed

/-! ## Everything that a write can come to -/

/-- All that a write can come to, with its answer. -/
inductive WriteOutcome (s : Server) (files : FileSystem) (h : String) (offset : Nat)
    (data : Bytes) : Outcome → Prop where
  /-- The handle does not stand for a file. -/
  | unknown (missing : s.file? h = none) :
      WriteOutcome s files h offset data (s.answer files (.status .failure))
  /-- There is no such place. -/
  | misplaced {file : OpenFile} {e : Fault} (found : s.file? h = some file)
      (sought : files.seek file.node offset = .error e) :
      WriteOutcome s files h offset data (s.answer files (.fault e))
  /-- There is nothing to write. -/
  | nothing {file : OpenFile} {position : Nat} (found : s.file? h = some file)
      (sought : files.seek file.node offset = .ok position) (empty : data.isEmpty = true) :
      WriteOutcome s files h offset data (s.answer files (.status .ok))
  /-- An earlier refusal is reported instead. -/
  | reported {file : OpenFile} {position : Nat} {e : Fault} (found : s.file? h = some file)
      (sought : files.seek file.node offset = .ok position) (some : data.isEmpty = false)
      (owed : file.refused = .some e) :
      WriteOutcome s files h offset data
        ((s.update h (.file { file with refused := none })).answer files (.fault e))
  /-- The file takes all of the bytes. -/
  | taken {file : OpenFile} {position : Nat} (found : s.file? h = some file)
      (sought : files.seek file.node offset = .ok position) (some : data.isEmpty = false)
      (free : file.refused = none) (files' : FileSystem)
      (takes : file.Takes files position data files') :
      WriteOutcome s files h offset data (s.answer files' (.status .ok))
  /-- The last piece is refused, which nobody hears of for now. -/
  | deferred {file : OpenFile} {position : Nat} (found : s.file? h = some file)
      (sought : files.seek file.node offset = .ok position) (some : data.isEmpty = false)
      (free : file.refused = none) (files' : FileSystem) (front rest : Bytes)
      (split : data = front ++ rest) (takes : file.Takes files position front files') (e : Fault)
      (remains : Remains file files' (position + front.length) rest (.refusedAtLast e)) :
      WriteOutcome s files h offset data
        ((s.update h (.file { file with refused := .some e })).answer files' (.status .ok))
  /-- An earlier piece is refused, and the answer says so. -/
  | cutShort {file : OpenFile} {position : Nat} (found : s.file? h = some file)
      (sought : files.seek file.node offset = .ok position) (some : data.isEmpty = false)
      (free : file.refused = none) (files' : FileSystem) (front rest : Bytes)
      (split : data = front ++ rest) (takes : file.Takes files position front files') (e : Fault)
      (remains : Remains file files' (position + front.length) rest (.refused e)) :
      WriteOutcome s files h offset data (s.answer files' (.fault e))

/-- **The list is complete.** -/
theorem writeOutcome (s : Server) (files : FileSystem) (h : String) (offset : Nat) (data : Bytes) :
    WriteOutcome s files h offset data (s.write files h offset data) := by
  unfold write
  cases found : s.file? h with
  | none => exact .unknown found
  | some file =>
    dsimp only
    cases sought : files.seek file.node offset with
    | error e => exact .misplaced found sought
    | ok position =>
      dsimp only
      cases empty : data.isEmpty with
      | true => exact .nothing found sought empty
      | false =>
        rw [if_neg Bool.false_ne_true]
        cases owed : file.refused with
        | some e => exact .reported found sought empty owed
        | none =>
          obtain ⟨front, rest, split, takes, remains⟩ :=
            handOverAll_remains file files position empty (Nat.le_refl data.length)
          dsimp only
          generalize handOverAll file data.length files position data = handed at takes remains
          obtain ⟨files', fate⟩ := handed
          cases remains with
          | nothing =>
            rw [List.append_nil] at split
            subst split
            exact .taken found sought empty owed files' takes
          | lastPiece some one refuses =>
            exact .deferred found sought empty owed files' front rest split takes _
              (.lastPiece some one refuses)
          | morePieces several refuses =>
            exact .cutShort found sought empty owed files' front rest split takes _
              (.morePieces several refuses)

end Server

/-! ## Word that is owed -/

/-- The handle keeps a refusal that nobody has heard of. -/
def Server.Owes (s : Server) (h : String) (e : Fault) : Prop :=
  ∃ file, s.Keeps h file ∧ file.refused = some e

/-- A request that goes by the handle is answered with a refusal, and does nothing to the
files. -/
structure Exchange.Reports (x : Exchange) (h : String) (e : Fault) : Prop where
  request : x.request = .close h ∨
    ∃ offset data, x.request = .write h offset data ∧ data.isEmpty = false
  reply : x.reply = .fault e
  files : x.outcome.files = x.files

namespace Server

variable {s t : Server} {files files' : FileSystem} {h : String} {file : OpenFile}
  {position offset : Nat} {data : Bytes} {e : Fault}

/-- Handles in a session that has begun with none are not given out again. -/
theorem given_of_reached {root : String} {current : Trail} {asked : List (FileSystem × Request)}
    {entry : Entry} (found : (after { root, current } asked).handles.get? h = some entry) :
    ∃ k ≤ (after { root, current } asked).issued, handleName k = h := by
  let s : Server := { root, current }
  have accounted : Accounted s (s.exchanges asked) (s.after asked) :=
    (Accounted.start s rfl rfl).run asked
  obtain ⟨x, since, live, -⟩ := accounted.found h entry found
  have given := live.mem_issued
  rw [accounted.issued] at given
  obtain ⟨n, below, name⟩ := List.mem_map.mp given
  exact ⟨n + 1, List.mem_range.mp below, name⟩

theorem keeps_of_reached {root : String} {current : Trail} {asked : List (FileSystem × Request)}
    (found : (after { root, current } asked).file? h = some file) :
    (after { root, current } asked).Keeps h file :=
  ⟨found, given_of_reached (file?_eq_some.mp found)⟩

/-- Closing the handle pays what is owed. -/
theorem Owes.close (owes : s.Owes h e) (files : FileSystem) :
    Exchange.Reports ⟨s, files, .close h⟩ h e := by
  obtain ⟨file, keeps, refused⟩ := owes
  have closed : s.handle files (.close h) =
      ⟨{ s with handles := s.handles.erase h }, files, .fault e⟩ := by
    show s.close files h = _
    unfold Server.close
    rw [file?_eq_some.mp keeps.entry]
    simp only [refused]
    rfl
  exact ⟨.inl rfl, congrArg Outcome.reply closed, congrArg Outcome.files closed⟩

theorem Owes.refused (owes : s.Owes h e) (found : s.file? h = some file) :
    file.refused = some e := by
  obtain ⟨file', keeps, refused⟩ := owes
  obtain rfl := Option.some.inj (keeps.entry.symm.trans found)
  exact refused

/-- So does a write of bytes, at a place that there is. -/
theorem Owes.write (owes : s.Owes h e) (found : s.file? h = some file)
    (sought : files.seek file.node offset = .ok position) (some : data.isEmpty = false) :
    Exchange.Reports ⟨s, files, .write h offset data⟩ h e := by
  have written : s.handle files (.write h offset data) =
      ⟨s.update h (.file { file with refused := none }), files, .fault e⟩ := by
    show s.write files h offset data = _
    unfold Server.write
    simp only [found, sought, some, owes.refused found]
    rfl
  exact ⟨.inr ⟨offset, data, rfl, some⟩, congrArg Outcome.reply written,
    congrArg Outcome.files written⟩

/-- **What is owed is paid or stays owed**, whatever is asked for. -/
theorem Owes.step (owes : s.Owes h e) (files : FileSystem) (r : Request) :
    (s.handle files r).server.Owes h e ∨ Exchange.Reports ⟨s, files, r⟩ h e := by
  by_cases closes : r = .close h
  · subst closes
    exact .inr (owes.close files)
  obtain ⟨file, keeps, refused⟩ := owes
  obtain ⟨refused', keeps', untouched⟩ := keeps.step files closes
  cases asks : r.write? h with
  | none => exact .inl ⟨_, keeps', (untouched asks).trans refused⟩
  | some w =>
    obtain ⟨offset, data⟩ := w
    obtain rfl := Request.write?_eq_some.mp asks
    have same : ∀ {file'}, s.file? h = some file' → file' = file :=
      fun found => Option.some.inj (found.symm.trans keeps.entry)
    have outcome := writeOutcome s files h offset data
    cases written : s.write files h offset data with
    | mk server files' reply =>
    have handled : s.handle files (.write h offset data) = ⟨server, files', reply⟩ := written
    rw [handled]
    rw [written] at outcome
    -- nothing is handed over, since the handle is not free
    cases outcome with
    | unknown missing => cases missing.symm.trans keeps.entry
    | misplaced | nothing => exact .inl ⟨file, keeps, refused⟩
    | reported found sought some => exact .inr (Owes.write ⟨file, keeps, refused⟩ found sought some)
    | taken found _ _ free | deferred found _ _ free | cutShort found _ _ free =>
      rw [same found, refused] at free
      cases free

/-- **What is owed is paid by some request or stays owed.** -/
theorem Owes.run (owes : s.Owes h e) (asked : List (FileSystem × Request)) :
    (∃ x ∈ s.exchanges asked, x.Reports h e) ∨ (s.after asked).Owes h e := by
  induction asked generalizing s with
  | nil => exact .inr owes
  | cons x rest ih =>
    obtain ⟨files, r⟩ := x
    rcases owes.step files r with owes | reports
    · obtain ⟨x, later, reports⟩ | owes := ih owes
      · exact .inl ⟨x, List.mem_cons_of_mem _ later, reports⟩
      · exact .inr owes
    · exact .inl ⟨_, List.mem_cons_self, reports⟩

end Server

/-! ## Bytes that are read back -/

/-- Whoever reads bytes of a file at their place finds them: of those that are asked for at
least one, and all of them on a machine that has them at hand. -/
structure ReadsBack (files : FileSystem) (node : NodeId) (place : Nat) (data : Bytes) : Prop where
  piece : ∀ (r : Reading) h file c i, r.files = files → r.Of node c →
    r.server.file? h = some file → file.node = node → file.access.read = true →
    r.offset = place + i → i + r.count ≤ data.length →
    ∃ n, 0 < n ∧ n ≤ r.count ∧ r.reply h = .data ((data.drop i).take n)
  whole : ∀ (t : Server) h file, t.file? h = some file → file.node = node →
    file.access.read = true → data.isEmpty = false → data.length ≤ pieceLimit →
    (t.handle files (.read h place data.length)).reply = .data data

/-- **Bytes that were laid into a file are read back.** -/
theorem readsBack_of_overlay {files : FileSystem} {node : NodeId} {c : Bytes} {place : Nat}
    {data : Bytes} (contents : files.contents? node = some (overlay c place data))
    (near : place + data.length < sizeLimit) : ReadsBack files node place data := by
  have limits : sizeLimit + pieceLimit < positionLimit := by decide
  constructor
  case piece =>
    intro r h file c' i same of found node readable there inside
    have count := of.positive
    obtain rfl := Option.some.inj (of.contents.symm.trans (same ▸ contents))
    have brought : ∀ n ≤ r.count,
        ((overlay c place data).drop r.offset).take n = (data.drop i).take n := by
      intro n atMost
      rw [there, ← List.drop_drop, FileSystem.drop_overlay, List.drop_append_of_le_length (by omega),
        List.take_append_of_le_length (by rw [List.length_drop]; omega)]
    have long : place + data.length ≤ (overlay c place data).length := by
      have lengths := congrArg List.length (FileSystem.drop_overlay c place data)
      rw [List.length_drop, List.length_append] at lengths
      omega
    obtain ⟨-, n, some, atMost, -, reply⟩ | ⟨past, -⟩ :=
      of.reply found node readable (by omega)
    · exact ⟨n, some, atMost, brought n atMost ▸ reply⟩
    · omega
  case whole =>
    rintro t h file found rfl readable some one
    obtain ⟨mode, regular⟩ := FileSystem.contents?_eq_some.mp contents
    have count : data.length ≠ 0 := fun none => by
      rw [List.eq_nil_of_length_eq_zero none] at some
      cases some
    show (t.readBy files.readAt files h place data.length).reply = .data data
    unfold Server.readBy FileSystem.readAt
    rw [found]
    dsimp only
    rw [FileSystem.seek_of_contents? contents, if_neg (by omega)]
    dsimp only
    rw [if_neg count, readable, Bool.not_true, if_neg Bool.false_ne_true, Nat.min_eq_left one,
      if_neg (by omega), regular]
    dsimp only
    rw [FileSystem.drop_overlay, List.take_left]
    cases data with
    | nil => cases some
    | cons first rest => rfl

/-! ## What an answer says -/

/-- What a client can rely on who asks for a write by a handle. -/
structure WriteAccount (x : Exchange) (h : String) (offset : Nat) (data : Bytes) : Prop where
  /-- The write comes to one of the listed things. -/
  outcome : Server.WriteOutcome x.server x.files h offset data x.outcome
  /-- Of the bytes of an acknowledged write a front part is in the file. For the rest, which
  is one piece at most, the handle owes word. -/
  front : x.reply = .status .ok → ∃ file position front rest,
    x.server.file? h = some file ∧ x.files.seek file.node offset = .ok position ∧
      data = front ++ rest ∧ file.Takes x.files position front x.outcome.files ∧
      (rest = [] ∨ rest.length ≤ pieceLimit ∧ ∃ e, x.outcome.server.Owes h e ∧
        Server.handOver x.outcome.files file (position + front.length) rest = .error e)
  /-- What is owed is told to the next write of bytes by the handle, at a place that there is. -/
  next : ∀ e, x.outcome.server.Owes h e → ∀ file files' offset' position data',
    x.outcome.server.file? h = some file → files'.seek file.node offset' = .ok position →
    data'.isEmpty = false →
    Exchange.Reports ⟨x.outcome.server, files', .write h offset' data'⟩ h e
  /-- What is owed is paid by a request before the handle is closed, or by the request that
  closes it. -/
  paid : ∀ e, x.outcome.server.Owes h e → ∀ asked final,
    (∃ y ∈ x.outcome.server.exchanges asked, y.Reports h e) ∨
      Exchange.Reports ⟨x.outcome.server.after asked, final, .close h⟩ h e
  /-- If a write is acknowledged, and all by the handle after it, and at last its closing,
  then all of the bytes are in the file. -/
  settled : x.reply = .status .ok → ∀ asked final, x.Acknowledged h asked final →
    (∀ y ∈ x.outcome.server.exchanges asked, y.request ≠ .close h) →
    ∃ file position, x.server.file? h = some file ∧
      x.files.seek file.node offset = .ok position ∧
      file.Takes x.files position data x.outcome.files
  /-- If a write is acknowledged and no word is owed, its bytes are in the file, where they
  are read back unless the file is one for appending. -/
  read_back : x.reply = .status .ok → (∀ e, ¬ x.outcome.server.Owes h e) →
    ∀ file c, x.server.file? h = some file → x.files.contents? file.node = some c →
      x.outcome.files.contents? file.node = some (file.laid c offset data) ∧
        (file.access.append = false → data.isEmpty = false →
          ReadsBack x.outcome.files file.node offset data)
  /-- By a handle that was opened for writing at all places, and owes no word, what ends
  within the limit is written, and nothing is owed. -/
  within : ∀ file c, x.server.file? h = some file → file.TakesWrites → file.refused = none →
    x.files.contents? file.node = some c → offset + data.length < sizeLimit →
    x.reply = .status .ok ∧ ∀ e, ¬ x.outcome.server.Owes h e

/-- A refusal is no acknowledgement. -/
theorem Reply.fault_ne_ok (e : Fault) : Reply.fault e ≠ .status .ok := by
  cases e <;> decide

namespace Server

variable {s t : Server} {files : FileSystem} {h : String} {file : OpenFile} {offset : Nat}
  {data : Bytes} {e : Fault}

/-- Of what is acknowledged a front part is in the file, and for the rest the handle owes
word. -/
theorem WriteOutcome.front {o : Outcome} (outcome : WriteOutcome s files h offset data o)
    (keeps : ∀ {file}, s.file? h = some file → s.Keeps h file)
    (answered : o.reply = .status .ok) :
    ∃ file position front rest,
      s.file? h = some file ∧ files.seek file.node offset = .ok position ∧
        data = front ++ rest ∧ file.Takes files position front o.files ∧
        (rest = [] ∨ rest.length ≤ pieceLimit ∧ ∃ e, o.server.Owes h e ∧
          handOver o.files file (position + front.length) rest = .error e) := by
  cases outcome with
  | unknown => cases answered
  | misplaced | reported | cutShort => exact absurd answered (Reply.fault_ne_ok _)
  | @nothing file position found sought empty =>
    obtain rfl := List.isEmpty_iff.mp empty
    exact ⟨file, position, [], [], found, sought, rfl, .nothing file files position, .inl rfl⟩
  | @taken file position found sought _ _ files' takes =>
    exact ⟨file, position, data, [], found, sought, (List.append_nil data).symm, takes, .inl rfl⟩
  | @deferred file position found sought _ _ files' front rest split takes e remains =>
    cases remains with
    | lastPiece _ one refuses =>
      have owes : (s.update h (.file { file with refused := some e })).Owes h e :=
        ⟨_, (keeps found).update _, rfl⟩
      exact ⟨file, position, front, rest, found, sought, split, takes, .inr ⟨one, e, owes, refuses⟩⟩

/-- If no word is owed, nothing is missing. -/
theorem WriteOutcome.complete {o : Outcome} (outcome : WriteOutcome s files h offset data o)
    (keeps : ∀ {file}, s.file? h = some file → s.Keeps h file)
    (answered : o.reply = .status .ok) (free : ∀ e, ¬ o.server.Owes h e) :
    ∃ file position, s.file? h = some file ∧ files.seek file.node offset = .ok position ∧
      file.Takes files position data o.files := by
  obtain ⟨file, position, front, rest, found, sought, split, takes, none | ⟨-, e, owes, -⟩⟩ :=
    outcome.front keeps answered
  · rw [none, List.append_nil] at split
    exact ⟨file, position, found, sought, split ▸ takes⟩
  · exact absurd owes (free e)

/-- A handle that may write and owes nothing takes what ends within the limit. -/
theorem write_within {c : Bytes} (found : s.file? h = some file) (able : file.TakesWrites)
    (free : file.refused = none) (contents : files.contents? file.node = some c)
    (inside : offset + data.length < sizeLimit) :
    (s.write files h offset data).reply = .status .ok ∧
      ∀ e, ¬ (s.write files h offset data).server.Owes h e := by
  have owed : ∀ e, ¬ s.Owes h e := by
    intro e owes
    cases (owes.refused found).symm.trans free
  have wrote := wrote found able (fun _ => contents) offset data
  generalize (s.write files h offset data).server = t at wrote ⊢
  generalize (s.write files h offset data).files = files' at wrote
  generalize (s.write files h offset data).reply = reply at wrote ⊢
  cases wrote with
  | refused _ _ _ _ beyond =>
    have := beyond free
    omega
  | nothing | taken => exact ⟨rfl, owed⟩
  | deferred => omega

end Server

/-- What a file has taken is in it, and is read back unless the file is one for appending. -/
theorem OpenFile.Takes.read_back {file : OpenFile} {files files' : FileSystem} {c : Bytes}
    {position offset : Nat} {data : Bytes} (takes : file.Takes files position data files')
    (sought : files.seek file.node offset = .ok position)
    (contents : files.contents? file.node = some c) :
    files'.contents? file.node = some (file.laid c offset data) ∧
      (file.access.append = false → data.isEmpty = false →
        ReadsBack files' file.node offset data) := by
  rw [FileSystem.seek_of_contents? contents] at sought
  split at sought
  case isTrue => cases sought
  obtain rfl := Except.ok.inj sought
  have laid := takes.contents c contents
  refine ⟨laid, fun placed some => ?_⟩
  rw [OpenFile.laid, some, placed, if_neg Bool.false_ne_true, if_neg Bool.false_ne_true] at laid
  exact readsBack_of_overlay laid (takes.within c contents placed some)

/-- If all writes by a handle are acknowledged, and its closing, then it has owed no word. -/
theorem Exchange.Acknowledged.owes_none {x : Exchange} {h : String}
    {asked : List (FileSystem × Request)} {final : FileSystem} {e : Fault}
    (acknowledged : x.Acknowledged h asked final)
    (unclosed : ∀ y ∈ x.outcome.server.exchanges asked, y.request ≠ .close h) :
    ¬ x.outcome.server.Owes h e := by
  intro owes
  obtain ⟨y, later, reports⟩ | owes := owes.run asked
  · obtain closes | ⟨offset, data, asks, -⟩ := reports.request
    · exact unclosed y later closes
    · have writes : (y.request.write? h).isSome := by
        rw [Request.write?_eq_some.mpr asks]
        rfl
      exact Reply.fault_ne_ok e (reports.reply.symm.trans (acknowledged.writes y later writes))
  · have reports := owes.close final
    exact Reply.fault_ne_ok e (reports.reply.symm.trans acknowledged.closed)

/-- **What an acknowledged write says**, in any state of a session. -/
theorem acknowledged_write (root : String) (current : Trail)
    (asked : List (FileSystem × Request)) (files : FileSystem) (h : String) (offset : Nat)
    (data : Bytes) :
    WriteAccount ⟨Server.after { root, current } asked, files, .write h offset data⟩ h offset
      data := by
  generalize reached : Server.after { root, current } asked = s
  have keeps : ∀ {file}, s.file? h = some file → s.Keeps h file := by
    subst reached
    exact Server.keeps_of_reached
  let x : Exchange := ⟨s, files, .write h offset data⟩
  have outcome : Server.WriteOutcome s files h offset data x.outcome :=
    s.writeOutcome files h offset data
  constructor
  case outcome => exact outcome
  case front => exact outcome.front keeps
  case next => exact fun e owes file files' offset' position data' => owes.write
  case paid =>
    intro e owes asked final
    obtain reports | owes := owes.run asked
    · exact .inl reports
    · exact .inr (owes.close final)
  case settled =>
    intro answered asked final acknowledged unclosed
    exact outcome.complete keeps answered fun e => acknowledged.owes_none unclosed
  case read_back =>
    intro answered free file c found contents
    obtain ⟨file', position, found', sought, takes⟩ := outcome.complete keeps answered free
    obtain rfl := Option.some.inj (found.symm.trans found')
    exact takes.read_back sought contents
  case within =>
    intro file c found able free contents inside
    exact Server.write_within found able free contents inside

/-- The session that has opened the file for reading alone. -/
def withReader : Server where
  root := "/"
  handles := ⟨[("h1", .file { node := 1, access := accessOf 1 })]⟩
  issued := 1

/-- It asks for a byte to be written all the same. -/
def unwritten : Exchange :=
  ⟨withReader, withFile [1, 2, 3], .write "h1" 0 [9]⟩

/-- **A write was acknowledged and is not in the file**, where the old bytes are read back. The
request that closes the handle tells of it. -/
theorem unwritten_acknowledged :
    Server.after { root := "/" } [(withFile [1, 2, 3], .openFile "a" (accessOf 1))] = withReader ∧
      unwritten.reply = .status .ok ∧
      unwritten.outcome.files.contents? 1 = some [1, 2, 3] ∧
      overlay [1, 2, 3] 0 [9] = [9, 2, 3] ∧
      (unwritten.outcome.server.handle unwritten.outcome.files (.read "h1" 0 1)).reply =
        .data [1] ∧
      (unwritten.outcome.server.handle unwritten.outcome.files (.close "h1")).reply =
        .status .failure := by
  refine ⟨?_, rfl, rfl, rfl, rfl, rfl⟩
  have resolved : Server.resolve { root := "/" } "a" = "/a" := by decide +kernel
  have path : Path.steps "/a" = ["a"] := by decide +kernel
  have openFile : (withFile [1, 2, 3]).openFile [] (accessOf 1) "/a" =
      .ok (withFile [1, 2, 3], 1) := by
    unfold FileSystem.openFile FileSystem.resolve
    rw [if_neg (by decide), if_neg (by decide), path]
    simp only [FileSystem.walk]
    rfl
  show (Server.openFile { root := "/" } (withFile [1, 2, 3]) "a" (accessOf 1)).server = withReader
  unfold Server.openFile
  rw [resolved, openFile]
  rfl

end ShellGateway.Sftp
