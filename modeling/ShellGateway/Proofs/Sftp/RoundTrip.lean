import ShellGateway.Proofs.Sftp.Writing

/-!
# What is written is read back

A client writes a file by a handle, in pieces of its choice, and closes it; later it
reads by another handle, always from where the answer before ended. `ContentsKept` says
what it can rely on. The file holds what its writes leave in an empty file, in whatever
order they came and whatever they overlapped, if each of them and the closing was
acknowledged; and they are, if they end within the limit of the file system. The answers
to its reads are pieces of the contents, none of them empty, and together the contents;
the end is told at the end and nowhere else.

Of the machine it is asked that nobody else writes to the file meanwhile, and that it has
at least one byte at hand when a place in front of the end is read. It may hand over fewer
bytes than were asked for.
-/

namespace ShellGateway.Sftp

open Files
open FileSystem (sizeLimit positionLimit HandsOver)

/-! ## Reading -/

/-- The bytes of an answer. -/
def Reply.bytes : Reply → Bytes
  | data bytes => bytes
  | _ => []

/-- A read by a handle: the session and the files that it meets, what the machine hands
over of the bytes of nodes, and which bytes are asked for. -/
structure Reading where
  server : Server
  files : FileSystem
  take : NodeId → Nat → Nat → Except Fault Bytes
  offset : Nat
  count : Nat

namespace Reading

/-- The answer to a read. -/
def reply (h : String) (r : Reading) : Reply :=
  (r.server.readBy r.take r.files h r.offset r.count).reply

/-- The bytes that reads have brought. -/
def brought (h : String) (reads : List Reading) : Bytes :=
  reads.flatMap fun r => (r.reply h).bytes

/-- Each read starts where the answer before it ended. -/
def InARow (h : String) : Nat → List Reading → Prop
  | _, [] => True
  | start, r :: rest => r.offset = start ∧ InARow h (start + (r.reply h).bytes.length) rest

/-- The read is one of bytes of a file with the given contents. -/
structure Of (node : NodeId) (c : Bytes) (r : Reading) : Prop where
  contents : r.files.contents? node = some c
  machine : HandsOver c (r.take node)
  positive : 0 < r.count

variable {h : String} {node : NodeId} {c : Bytes} {r : Reading}

/-- A read of a session on a machine that has all bytes at hand. -/
theorem reply_read (s : Server) (files : FileSystem) (h : String) (offset count : Nat) :
    reply h ⟨s, files, files.readAt, offset, count⟩ =
      (s.handle files (.read h offset count)).reply :=
  rfl

/-- **The answer to a read** is a piece of the contents, and not an empty one, or it tells
the end, which is where the read starts. -/
theorem Of.reply (o : r.Of node c) {file : OpenFile} (found : r.server.file? h = some file)
    (same : file.node = node) (readable : file.access.read = true)
    (near : r.offset + pieceLimit < positionLimit) :
    (r.offset < c.length ∧ ∃ n, 0 < n ∧ n ≤ r.count ∧ r.offset + n ≤ c.length ∧
      r.reply h = .data ((c.drop r.offset).take n)) ∨
    (c.length ≤ r.offset ∧ r.reply h = .status .eof) := by
  subst same
  have count := o.positive
  have limit : 0 < pieceLimit := by decide
  have asked : r.offset + min r.count pieceLimit < positionLimit := by omega
  unfold Reading.reply Server.readBy
  rw [found]
  dsimp only
  rw [FileSystem.seek_of_contents? o.contents, if_neg (by omega)]
  dsimp only
  rw [if_neg (by omega), readable]
  by_cases before : r.offset < c.length
  · obtain ⟨n, some, atMost, inside, took⟩ :=
      o.machine.inside r.offset (min r.count pieceLimit) before (by omega) asked
    refine .inl ⟨before, n, some, by omega, inside, ?_⟩
    rw [took]
    cases piece : (c.drop r.offset).take n with
    | nil =>
      have lengths := congrArg List.length piece
      rw [List.length_take, List.length_drop, List.length_nil] at lengths
      omega
    | cons first rest => rfl
  · rw [o.machine.behind r.offset _ (by omega) asked]
    exact .inr ⟨by omega, rfl⟩

end Reading

/-- What reads in a row bring, from a place in a file with contents `c` on. -/
structure ReadThrough (h : String) (c : Bytes) (start : Nat) (reads : List Reading) : Prop where
  /-- An answer that does not tell the end is a piece, of one byte at least and as many as
  were asked for at most, from the place that was asked for. -/
  piece : ∀ r ∈ reads, r.reply h ≠ .status .eof → ∃ n, 0 < n ∧ n ≤ r.count ∧
    r.offset + n ≤ c.length ∧ r.reply h = .data ((c.drop r.offset).take n)
  /-- The end is told at the end and behind it, and nowhere else. -/
  ends : ∀ r ∈ reads, r.reply h = .status .eof ↔ c.length ≤ r.offset
  /-- The pieces fit together. -/
  so_far : Reading.brought h reads <+: c.drop start
  /-- When the end has been told, nothing is missing. -/
  whole : (∃ r ∈ reads, r.reply h = .status .eof) → Reading.brought h reads = c.drop start
  /-- The end is told after as many reads as there are bytes. -/
  comes : c.length - start < reads.length → ∃ r ∈ reads, r.reply h = .status .eof

namespace ReadThrough

variable {h : String} {c : Bytes} {r : Reading} {rest : List Reading}

theorem brought_cons (h : String) (r : Reading) (rest : List Reading) :
    Reading.brought h (r :: rest) = (r.reply h).bytes ++ Reading.brought h rest :=
  List.flatMap_cons

/-- A piece more in front. -/
theorem cons_data {n : Nat} (some : 0 < n) (atMost : n ≤ r.count)
    (inside : r.offset + n ≤ c.length) (reply : r.reply h = .data ((c.drop r.offset).take n))
    (through : ReadThrough h c (r.offset + n) rest) : ReadThrough h c r.offset (r :: rest) := by
  have parts : (c.drop r.offset).take n ++ c.drop (r.offset + n) = c.drop r.offset := by
    rw [← List.drop_drop, List.take_append_drop]
  have brought : Reading.brought h (r :: rest) =
      (c.drop r.offset).take n ++ Reading.brought h rest := by
    rw [brought_cons, reply]
    rfl
  have further : r.reply h ≠ .status .eof := by
    rw [reply]
    nofun
  constructor
  case piece =>
    intro x hx
    obtain rfl | hx := List.mem_cons.mp hx
    · intro _
      exact ⟨n, some, atMost, inside, reply⟩
    · exact through.piece x hx
  case ends =>
    intro x hx
    obtain rfl | hx := List.mem_cons.mp hx
    · exact ⟨fun told => absurd told further, fun past => by omega⟩
    · exact through.ends x hx
  case so_far =>
    have together := (List.prefix_append_right_inj ((c.drop r.offset).take n)).mpr through.so_far
    rw [parts] at together
    rw [brought]
    exact together
  case whole =>
    rintro ⟨x, hx, told⟩
    obtain rfl | hx := List.mem_cons.mp hx
    · exact absurd told further
    · rw [brought, through.whole ⟨x, hx, told⟩, parts]
  case comes =>
    intro enough
    rw [List.length_cons] at enough
    obtain ⟨x, hx, told⟩ := through.comes (by omega)
    exact ⟨x, List.mem_cons_of_mem _ hx, told⟩

/-- The end, told once more in front. -/
theorem cons_eof (past : c.length ≤ r.offset) (reply : r.reply h = .status .eof)
    (through : ReadThrough h c r.offset rest) : ReadThrough h c r.offset (r :: rest) := by
  have brought : Reading.brought h (r :: rest) = Reading.brought h rest := by
    rw [brought_cons, reply]
    rfl
  constructor
  case piece =>
    intro x hx further
    obtain rfl | hx := List.mem_cons.mp hx
    · exact absurd reply further
    · exact through.piece x hx further
  case ends =>
    intro x hx
    obtain rfl | hx := List.mem_cons.mp hx
    · exact ⟨fun _ => past, fun _ => reply⟩
    · exact through.ends x hx
  case so_far =>
    rw [brought]
    exact through.so_far
  case whole =>
    intro _
    have nothing := through.so_far
    rw [List.drop_eq_nil_of_le past] at nothing ⊢
    rw [brought, List.prefix_nil.mp nothing]
  case comes =>
    intro _
    exact ⟨r, List.mem_cons_self, reply⟩

end ReadThrough

/-- **Reads in a row** go through the contents. -/
theorem readThrough {h : String} {node : NodeId} {c : Bytes} {start : Nat} {reads : List Reading}
    (of : ∀ r ∈ reads, r.Of node c)
    (found : ∀ r ∈ reads, ∃ file, r.server.file? h = some file ∧ file.node = node ∧
      file.access.read = true)
    (row : Reading.InARow h start reads) (near : start + pieceLimit < positionLimit)
    (short : c.length + pieceLimit < positionLimit) : ReadThrough h c start reads := by
  induction reads generalizing start with
  | nil =>
    constructor
    case piece | ends => nofun
    case so_far => exact List.nil_prefix
    case whole => nofun
    case comes => intro never; exact absurd never (Nat.not_lt_zero _)
  | cons r rest ih =>
    obtain ⟨rfl, row⟩ := row
    obtain ⟨file, entry, same, readable⟩ := found r List.mem_cons_self
    have through : ∀ n, (r.reply h).bytes.length = n → r.offset + n + pieceLimit < positionLimit →
        ReadThrough h c (r.offset + n) rest := by
      rintro n rfl near'
      exact ih (fun r hr => of r (List.mem_cons_of_mem _ hr))
        (fun r hr => found r (List.mem_cons_of_mem _ hr)) row near'
    obtain ⟨before, n, some, atMost, inside, reply⟩ | ⟨past, reply⟩ :=
      (of r List.mem_cons_self).reply entry same readable near
    · have length : (r.reply h).bytes.length = n := by
        rw [reply]
        show ((c.drop r.offset).take n).length = n
        rw [List.length_take, List.length_drop]
        omega
      exact .cons_data some atMost inside reply (through n length (by omega))
    · have none : (r.reply h).bytes.length = 0 := by
        rw [reply]
        rfl
      exact .cons_eof past reply (through 0 none near)

/-! ## The round trip -/

namespace Exchange

/-- What comes of closing a handle after requests that follow an exchange. -/
def closing (x : Exchange) (h : String) (asked : List (FileSystem × Request))
    (final : FileSystem) : Outcome :=
  (x.outcome.server.after asked).handle final (.close h)

/-- The handle is in use through requests that follow, until it is closed when the files have
come to `final`, and nobody writes to the file but by the handle. -/
structure WritesAlone (x : Exchange) (h : String) (node : NodeId)
    (asked : List (FileSystem × Request)) (final : FileSystem) : Prop where
  only : OnlyWriter h node x.outcome.files (x.outcome.server.exchanges asked) final
  unclosed : ∀ y ∈ asked, y.2 ≠ .close h

/-- All writes by the handle are acknowledged, and so is its closing. -/
structure Acknowledged (x : Exchange) (h : String) (asked : List (FileSystem × Request))
    (final : FileSystem) : Prop where
  writes : ∀ y ∈ x.outcome.server.exchanges asked, (y.request.write? h).isSome →
    y.reply = .status .ok
  closed : (x.closing h asked final).reply = .status .ok

end Exchange

/-- What a client can rely on who has opened a file and been given a handle. -/
structure ContentsKept (x : Exchange) (access : FileSystem.Access) (h : String)
    (node : NodeId) : Prop where
  /-- What was acknowledged up to the end is in the file: it holds what the writes leave in an
  empty file. -/
  written : access.overwrites = true → (x.outcome.files.contents? node).isSome →
    ∀ asked final, x.WritesAlone h node asked final → x.Acknowledged h asked final →
      (x.closing h asked final).files.contents? node = some (laid (writesBy h asked))
  /-- Pieces that were written one after the other are together in the file. -/
  in_a_row : access.overwrites = true → (x.outcome.files.contents? node).isSome →
    ∀ asked final, x.WritesAlone h node asked final → x.Acknowledged h asked final →
      ∀ pieces, writesBy h asked = inARow 0 pieces →
        (x.closing h asked final).files.contents? node = some pieces.flatten
  /-- Writes that end within the limit are acknowledged, and so is the closing. -/
  acknowledged : access.overwrites = true → (x.outcome.files.contents? node).isSome →
    ∀ asked final, x.WritesAlone h node asked final →
      (∀ w ∈ writesBy h asked, w.1 + w.2.length < sizeLimit) → x.Acknowledged h asked final
  /-- Reads in a row by the handle, at any times before it is closed, go through the contents
  of the file. -/
  read : access.read = true → ∀ c start reads,
    (∀ r ∈ reads, x.outcome.server.Leads h r.server ∧ r.Of node c) →
    Reading.InARow h start reads → start + pieceLimit < positionLimit →
    c.length + pieceLimit < positionLimit → ReadThrough h c start reads

/-- **What is written is kept and read back.** -/
theorem contents_kept {x : Exchange} {access : FileSystem.Access} {h : String} {node : NodeId}
    (opened : x.OpensFile access h node) : ContentsKept x access h node := by
  have written : access.overwrites = true → (x.outcome.files.contents? node).isSome →
      ∀ asked final, x.WritesAlone h node asked final → x.Acknowledged h asked final →
        (x.closing h asked final).files.contents? node = some (laid (writesBy h asked)) := by
    intro overwrites regular asked final alone acknowledged
    obtain ⟨refused, done⟩ := (opened.holds overwrites regular).run (.of_overwrites overwrites)
      alone.only alone.unclosed acknowledged.writes
    have contents := done.contents (done.close.1.mp acknowledged.closed)
    unfold Exchange.closing
    rw [done.close.2]
    exact contents
  constructor
  case written => exact written
  case in_a_row =>
    intro overwrites regular asked final alone acknowledged pieces row
    rw [written overwrites regular asked final alone acknowledged, row, laid_inARow]
  case acknowledged =>
    intro overwrites regular asked final alone within
    obtain ⟨answered, done⟩ := (opened.holds overwrites regular).run_within
      (.of_overwrites overwrites) rfl alone.only alone.unclosed within
    exact ⟨answered, done.close.1.mpr rfl⟩
  case read =>
    intro readable c start reads of row near short
    refine readThrough (fun r hr => (of r hr).2) (fun r hr => ?_) row near short
    obtain ⟨refused, keeps⟩ := opened.keeps.run (of r hr).1
    exact ⟨_, keeps.entry, rfl, readable⟩

/-- Files of which one, in the root directory, is called `a`. -/
def withFile (contents : Bytes) : FileSystem where
  nodes := ⟨[(1, .file contents newFileMode), (rootId, .directory ⟨[("a", 1)]⟩ newDirectoryMode)]⟩
  next := 2

/-- A file is opened for reading and for overwriting. -/
def opening : Exchange :=
  ⟨{ root := "/" }, withFile [1, 2, 3], .openFile "a" (accessOf 27)⟩

/-- The session that has opened it. -/
def withHandle : Server where
  root := "/"
  handles := ⟨[("h1", .file { node := 1, access := accessOf 27 })]⟩
  issued := 1

/-- Writes of which the first leaves a gap, and the last is laid over another one. -/
def scribble : List (FileSystem × Request) :=
  [(withFile [], .write "h1" 3 [1, 2]), (withFile [0, 0, 0, 1, 2], .write "h1" 0 [7, 8]),
    (withFile [7, 8, 0, 1, 2], .write "h1" 1 [9])]

/-- The files that the writes leave. -/
def scribbled : FileSystem :=
  withFile [7, 9, 0, 1, 2]

/-- Reads on a machine that hands over no more than two bytes at once. -/
def slowReads : List Reading :=
  [(0, 4), (2, 1), (3, 9), (5, 1)].map fun (offset, count) =>
    ⟨withHandle, scribbled, fun node offset count => scribbled.readAt node offset (min count 2),
      offset, count⟩

theorem contents_kept_scribble :
    opening.OpensFile (accessOf 27) "h1" 1 ∧
      opening.WritesAlone "h1" 1 scribble scribbled ∧
      opening.Acknowledged "h1" scribble scribbled ∧
      (opening.closing "h1" scribble scribbled).files.contents? 1 = some [7, 9, 0, 1, 2] ∧
      ReadThrough "h1" [7, 9, 0, 1, 2] 0 slowReads ∧
      Reading.brought "h1" slowReads = [7, 9, 0, 1, 2] := by
  have path : Path.splitLast "/a" = ([], .name "a" false) := by decide +kernel
  have walked : (withFile [1, 2, 3]).walkToParent linkLimit [] "/a" = .ok ([], linkLimit) := by
    unfold FileSystem.walkToParent
    rw [path]
    simp only [FileSystem.walk]
    rfl
  have openFile : (withFile [1, 2, 3]).openFile [] (accessOf 27) "/a" =
      .ok ((withFile [1, 2, 3]).put 1 (.file [] newFileMode), 1) := by
    unfold FileSystem.openFile
    rw [if_neg (by decide), if_pos (by decide),
      FileSystem.openCreating_of_child walked (congrArg Prod.snd path) rfl rfl rfl]
    rfl
  have outcome : opening.outcome =
      ⟨withHandle, (withFile [1, 2, 3]).put 1 (.file [] newFileMode), .handle "h1"⟩ := by
    have resolved : Server.resolve { root := "/" } "a" = "/a" := by decide +kernel
    show Server.openFile { root := "/" } (withFile [1, 2, 3]) "a" (accessOf 27) = _
    unfold Server.openFile
    rw [resolved, openFile]
    rfl
  have opened : opening.OpensFile (accessOf 27) "h1" 1 := by
    refine ⟨⟨"a", rfl⟩, ?_, ?_⟩
    · unfold Exchange.reply
      rw [outcome]
    · rw [outcome]
      rfl
  have regular : (opening.outcome.files.contents? 1).isSome := by
    rw [outcome]
    rfl
  have alone : opening.WritesAlone "h1" 1 scribble scribbled := by
    constructor
    · rw [outcome]
      have own : ∀ offset data, (Request.write "h1" offset data).write? "h1" ≠ none := by
        intro offset data other
        cases other
      exact .next rfl (absurd · (own _ _)) (.next rfl (absurd · (own _ _))
        (.next rfl (absurd · (own _ _)) (.done rfl)))
    · simp [scribble]
  have kept := contents_kept opened
  have acknowledged := kept.acknowledged rfl regular scribble scribbled alone (by decide +kernel)
  have bytes : scribbled.contents? 1 = some [7, 9, 0, 1, 2] := rfl
  have through : ReadThrough "h1" [7, 9, 0, 1, 2] 0 slowReads := by
    refine kept.read rfl _ _ _ (fun r hr => ⟨⟨[], ?_, by simp⟩, ?_⟩) ?_ (by decide) (by decide)
    · rw [outcome]
      obtain ⟨⟨offset, count⟩, -, rfl⟩ := List.mem_map.mp hr
      rfl
    · obtain ⟨⟨offset, count⟩, asked, rfl⟩ := List.mem_map.mp hr
      have positive : ∀ p ∈ [(0, 4), (2, 1), (3, 9), (5, 1)], 0 < p.2 := by decide
      have machine := (FileSystem.handsOver_readAt bytes).atMost Nat.two_pos
      exact ⟨bytes, machine, positive _ asked⟩
    · exact ⟨rfl, rfl, rfl, rfl, trivial⟩
  have last : ⟨withHandle, scribbled,
      fun node offset count => scribbled.readAt node offset (min count 2), 5, 1⟩ ∈ slowReads :=
    List.mem_map.mpr ⟨(5, 1), by decide, rfl⟩
  exact ⟨opened, alone, acknowledged,
    kept.written rfl regular scribble scribbled alone acknowledged,
    through, through.whole ⟨_, last, rfl⟩⟩

end ShellGateway.Sftp
