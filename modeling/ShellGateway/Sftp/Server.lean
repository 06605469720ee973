import ShellGateway.Files.FileSystem
import ShellGateway.Text.Digit

/-!
# The file server

One client's file transfer session. The client opens files and directories and
is given handles, `h1`, `h2` and so on, which are never given twice; each handle
stands for what was opened until the first request to close it.

A write is acknowledged when its last piece has been handed over to the file. If
the file refuses that piece afterwards, the open file remembers the refusal, and
the next write or close through the same handle reports it instead of doing its
own work.

The files belong to the machine, not to the session: every request is answered
from the files as they are at that time.
-/

namespace ShellGateway.Sftp

open Files

/-- The codes of the protocol that are in use. -/
inductive Status where
  | ok
  | eof
  | noSuchFile
  | permissionDenied
  | failure
  | unsupported
  deriving DecidableEq, Repr

/-- The wording of a code. -/
def Status.text : Status → String
  | ok => "Ok"
  | eof => "Eof"
  | noSuchFile => "No such file"
  | permissionDenied => "Permission denied"
  | failure => "Failure"
  | unsupported => "Operation unsupported"

/-- The code for a fault. -/
def Status.ofFault : Fault → Status
  | .notFound => noSuchFile
  | .permissionDenied => permissionDenied
  | .alreadyExists | .notADirectory | .isADirectory | .notEmpty | .tooManyLinks | .nameTooLong
  | .invalid | .busy | .badDescriptor | .tooLarge | .noSpace => failure

/-- An open file: its node, how it was opened, and a refused write that has not
been reported yet. -/
structure OpenFile where
  node : NodeId
  access : FileSystem.Access
  refused : Option Fault := none
  deriving DecidableEq, Repr

/-- An open directory: its path, and whether it has been listed. -/
structure OpenDirectory where
  path : String
  listed : Bool := false
  deriving DecidableEq, Repr

/-- What a handle stands for. -/
inductive Entry where
  | file (file : OpenFile)
  | directory (directory : OpenDirectory)
  deriving DecidableEq, Repr

/-- A session: the directory that relative paths start from, where that
directory is looked up when it is relative itself, the handles in use, and how
many have been given out. A machine counts them in 64 bits; the count here is
the same for sessions that give out fewer than `2 ^ 64`. -/
structure Server where
  root : String
  current : Trail := []
  handles : Dictionary String Entry := .empty
  issued : Nat := 0
  deriving Repr

/-- What a client asks for. -/
inductive Request where
  | realPath (path : String)
  | openDirectory (path : String)
  | readDirectory (handle : String)
  | openFile (path : String) (access : FileSystem.Access)
  | read (handle : String) (offset count : Nat)
  | write (handle : String) (offset : Nat) (data : Bytes)
  | close (handle : String)
  | stat (path : String) (follow : Bool)
  | statHandle (handle : String)
  | makeDirectory (path : String)
  | removeDirectory (path : String)
  | remove (path : String)
  | rename (old new : String)
  /-- A request that the server does not know. -/
  | other
  deriving DecidableEq, Repr

/-- An answer. -/
inductive Reply where
  | status (code : Status)
  | handle (handle : String)
  | path (path : String)
  | names (entries : List (String × Option FileSystem.Attributes))
  | data (bytes : Bytes)
  | attributes (attributes : FileSystem.Attributes)
  deriving DecidableEq, Repr

/-- The answer of a request that failed. -/
def Reply.fault (f : Fault) : Reply :=
  .status (.ofFault f)

/-- What follows from a request: the session and the files after it, and the
answer. -/
structure Outcome where
  server : Server
  files : FileSystem
  reply : Reply
  deriving Repr

/-- The `n`-th handle. -/
def handleName (n : Nat) : String :=
  "h" ++ Digit.decimal n

/-- The version of the protocol that is spoken. -/
def protocolVersion : Nat := 3

/-- The most bytes that are taken from a file or handed over to it at once. -/
def pieceLimit : Nat := 2 * 1024 * 1024

/-- The access that the bits of an open request ask for: read, write, append,
create, truncate and exclusive creation, from the lowest bit but one that has no
meaning of its own. -/
def accessOf (flags : Nat) : FileSystem.Access :=
  let bit (n : Nat) : Bool := flags.testBit n
  { read := bit 0, write := bit 1, append := bit 2, create := bit 3 && !bit 5,
    exclusive := bit 3 && bit 5, truncate := bit 4 }

namespace Server

/-- The path that a request means. -/
def resolve (s : Server) (path : String) : String :=
  if path.isEmpty || path = "." then s.root else Path.join s.root path

/-- Gives out a handle. -/
def issue (s : Server) (entry : Entry) : Server × String :=
  let handle := handleName (s.issued + 1)
  ({ s with handles := s.handles.insert handle entry, issued := s.issued + 1 }, handle)

/-- Replaces what a handle stands for. -/
def update (s : Server) (handle : String) (entry : Entry) : Server :=
  { s with handles := s.handles.insert handle entry }

/-- The open file of a handle. -/
def file? (s : Server) (handle : String) : Option OpenFile :=
  match s.handles.get? handle with
  | some (.file file) => some file
  | _ => none

/-- Answers without a change. -/
def answer (s : Server) (files : FileSystem) (reply : Reply) : Outcome :=
  ⟨s, files, reply⟩

/-- Answers with the files that an operation leaves, or with its fault. -/
def change (s : Server) (files : FileSystem) : Except Fault FileSystem → Outcome
  | .ok files => ⟨s, files, .status .ok⟩
  | .error e => s.answer files (.fault e)

/-- The canonical path of an existing file; of any other path, what it resolves
to. -/
def realPath (s : Server) (files : FileSystem) (path : String) : String :=
  match files.canonical s.current (s.resolve path) with
  | .ok canonical => canonical
  | .error _ => s.resolve path

/-- Opens a directory for listing. -/
def openDirectory (s : Server) (files : FileSystem) (path : String) : Outcome :=
  let path := s.resolve path
  match files.stat s.current true path with
  | .error e => s.answer files (.fault e)
  | .ok attributes =>
    if attributes.kind = .directory then
      let (s, handle) := s.issue (.directory { path })
      s.answer files (.handle handle)
    else s.answer files (.status .noSuchFile)

/-- Lists a directory, once; afterwards there is nothing more to list. -/
def readDirectory (s : Server) (files : FileSystem) (handle : String) : Outcome :=
  match s.handles.get? handle with
  | some (.directory d) =>
    if d.listed then s.answer files (.status .eof)
    else
      let s := s.update handle (.directory { d with listed := true })
      match files.list s.current d.path with
      | .error e => s.answer files (.fault e)
      | .ok entries =>
        s.answer files (.names (entries.map fun (name, id) => (name, files.attributes? id)))
  | _ => s.answer files (.status .failure)

/-- Opens a file. -/
def openFile (s : Server) (files : FileSystem) (path : String) (access : FileSystem.Access) :
    Outcome :=
  match files.openFile s.current access (s.resolve path) with
  | .error e => s.answer files (.fault e)
  | .ok (files, node) =>
    let (s, handle) := s.issue (.file { node, access })
    s.answer files (.handle handle)

/-- Reads from an open file. Of the bytes of a node from a position on, as many as are
asked for or fewer, `take` hands over those that the machine has at hand. Nothing to
read is the end of the file. -/
def readBy (take : NodeId → Nat → Nat → Except Fault Bytes) (s : Server) (files : FileSystem)
    (handle : String) (offset count : Nat) : Outcome :=
  match s.file? handle with
  | none => s.answer files (.status .failure)
  | some file =>
    match files.seek file.node offset with
    | .error e => s.answer files (.fault e)
    | .ok position =>
      if count = 0 then s.answer files (.status .eof)
      else if !file.access.read then s.answer files (.fault .badDescriptor)
      else
        match take file.node position (min count pieceLimit) with
        | .error e => s.answer files (.fault e)
        | .ok [] => s.answer files (.status .eof)
        | .ok bytes => s.answer files (.data bytes)

/-- Reads from an open file on a machine that has all bytes at hand. -/
def read (s : Server) (files : FileSystem) (handle : String) (offset count : Nat) : Outcome :=
  s.readBy files.readAt files handle offset count

/-- Hands bytes over to an open file. -/
def handOver (files : FileSystem) (file : OpenFile) (offset : Nat) (data : Bytes) :
    Except Fault FileSystem :=
  if !file.access.writes then .error .badDescriptor
  else if file.access.append then files.appendTo file.node data
  else files.writeAt file.node offset data

/-- What became of bytes that were handed over. -/
inductive Fate where
  | taken
  /-- The last piece was refused, and nobody has heard of it yet. -/
  | refusedAtLast (fault : Fault)
  /-- An earlier piece was refused, and those after it were held back. -/
  | refused (fault : Fault)
  deriving DecidableEq, Repr

/-- Hands bytes over piece by piece, each when the file has taken the one before.
The first argument bounds the number of pieces. -/
def handOverAll (file : OpenFile) : (pieces : Nat) → FileSystem → (position : Nat) → Bytes →
    FileSystem × Fate
  | 0, files, _, _ => (files, .taken)
  | pieces + 1, files, position, data =>
    let rest := data.drop pieceLimit
    match handOver files file position (data.take pieceLimit) with
    | .ok files =>
      if rest.isEmpty then (files, .taken)
      else handOverAll file pieces files (position + pieceLimit) rest
    | .error e => (files, if rest.isEmpty then .refusedAtLast e else .refused e)

/-- Writes to an open file. A refusal of an earlier write is reported first. -/
def write (s : Server) (files : FileSystem) (handle : String) (offset : Nat) (data : Bytes) :
    Outcome :=
  match s.file? handle with
  | none => s.answer files (.status .failure)
  | some file =>
    match files.seek file.node offset with
    | .error e => s.answer files (.fault e)
    | .ok position =>
      if data.isEmpty then s.answer files (.status .ok)
      else
        match file.refused with
        | some e => (s.update handle (.file { file with refused := none })).answer files (.fault e)
        | none =>
          match handOverAll file data.length files position data with
          | (files, .taken) => s.answer files (.status .ok)
          | (files, .refusedAtLast e) =>
            (s.update handle (.file { file with refused := some e })).answer files (.status .ok)
          | (files, .refused e) => s.answer files (.fault e)

/-- Closes a handle, whatever comes of it. -/
def close (s : Server) (files : FileSystem) (handle : String) : Outcome :=
  match s.handles.get? handle with
  | none => s.answer files (.status .failure)
  | some entry =>
    let s := { s with handles := s.handles.erase handle }
    match entry with
    | .directory _ => s.answer files (.status .ok)
    | .file file =>
      match file.refused with
      | some e => s.answer files (.fault e)
      | none => s.answer files (.status .ok)

/-- Describes the file that a path names. -/
def stat (s : Server) (files : FileSystem) (path : String) (follow : Bool) : Outcome :=
  match files.stat s.current follow path with
  | .ok attributes => s.answer files (.attributes attributes)
  | .error e => s.answer files (.fault e)

/-- Describes what a handle stands for. -/
def statHandle (s : Server) (files : FileSystem) (handle : String) : Outcome :=
  match s.handles.get? handle with
  | none => s.answer files (.status .failure)
  | some (.directory d) => s.stat files d.path true
  | some (.file file) =>
    match files.attributes? file.node with
    | some attributes => s.answer files (.attributes attributes)
    | none => s.answer files (.status .failure)

/-- Answers a request. -/
def handle (s : Server) (files : FileSystem) : Request → Outcome
  | .realPath path => s.answer files (.path (s.realPath files path))
  | .openDirectory path => s.openDirectory files path
  | .readDirectory handle => s.readDirectory files handle
  | .openFile path access => s.openFile files path access
  | .read handle offset count => s.read files handle offset count
  | .write handle offset data => s.write files handle offset data
  | .close handle => s.close files handle
  | .stat path follow => s.stat files (s.resolve path) follow
  | .statHandle handle => s.statHandle files handle
  | .makeDirectory path => s.change files (files.mkdir s.current (s.resolve path))
  | .removeDirectory path => s.change files (files.rmdir s.current (s.resolve path))
  | .remove path => s.change files (files.unlink s.current (s.resolve path))
  | .rename old new => s.change files (files.rename s.current (s.resolve old) (s.resolve new))
  | .other => s.answer files (.status .unsupported)

end Server

end ShellGateway.Sftp
