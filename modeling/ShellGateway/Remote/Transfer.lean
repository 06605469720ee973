import ShellGateway.Failure
import ShellGateway.Programs.Program
import ShellGateway.Sftp.Breadcrumb
import ShellGateway.Sftp.Server

/-!
# File transfer with a remote host

What web clients can do with the files of a remote host: list a directory,
bring a file, send one, make a directory, and delete. Each is a few requests to
the file server at the other end, the `Peer`; the first that is refused ends the
operation with a failure that names the request, the path and the refusal.

A listing leaves out the directory itself and its parent, and puts directories
before all else; within each kind entries are in the order of their names.
-/

namespace ShellGateway.Remote

open Sftp (Breadcrumb Status)

/-- What a file server says about a file. -/
structure Attributes where
  isDirectory : Bool
  size : Option Nat := none
  /-- Seconds since 1970. -/
  modified : Option Nat := none
  deriving DecidableEq, Repr

/-- An entry of a directory as a file server lists it. -/
structure DirectoryEntry where
  name : String
  attributes : Attributes
  deriving DecidableEq, Repr

/-! ## Listings -/

/-- An entry of a directory as web clients see it. -/
structure EntryView where
  name : String
  isDirectory : Bool
  size : Nat
  modified : Option Nat
  deriving DecidableEq, Repr

/-- A listing: the directory, the trail to it, and its entries. -/
structure Listing where
  path : String
  trail : List Breadcrumb
  entries : List EntryView
  deriving DecidableEq, Repr

/-- What web clients see of an entry. An unknown size is shown as zero. -/
def DirectoryEntry.view (e : DirectoryEntry) : EntryView where
  name := e.name
  isDirectory := e.attributes.isDirectory
  size := e.attributes.size.getD 0
  modified := e.attributes.modified

/-- Whether an entry stands for the directory itself or its parent. -/
def DirectoryEntry.isDot (e : DirectoryEntry) : Bool :=
  e.name == "." || e.name == ".."

/-- The order of entries in a listing. -/
def EntryView.le (a b : EntryView) : Bool :=
  if a.isDirectory = b.isDirectory then Programs.nameLe a.name b.name else a.isDirectory

/-- The listing of the entries that a file server gave. -/
def Listing.ofEntries (path : String) (entries : List DirectoryEntry) : Listing where
  path := path
  trail := Breadcrumb.trail path.toList
  entries := ((entries.filter (!·.isDot)).map DirectoryEntry.view).mergeSort EntryView.le

/-! ## Operations -/

/-- A request to a file server whose state is of type `σ`: its answer, and the
state afterwards. -/
abbrev Asked (σ α : Type) := σ → Except Status α × σ

/-- A file server as its clients know it. Files are opened before they are read
or written; a file that was written is finished last. -/
structure Peer (σ : Type) where
  readDirectory : String → Asked σ (List DirectoryEntry)
  openToRead : String → Asked σ String
  readToEnd : String → Asked σ Bytes
  create : String → Asked σ String
  writeAll : String → Bytes → Asked σ Unit
  finish : String → Asked σ Unit
  makeDirectory : String → Asked σ Unit
  stat : String → Asked σ Attributes
  removeDirectory : String → Asked σ Unit
  removeFile : String → Asked σ Unit

/-- The failure of a refused request. -/
def refusal (request path : String) (code : Status) : Failure :=
  .sftp (request ++ " " ++ path ++ ": " ++ code.text ++ ": " ++ code.text)

/-- An operation on a remote host's files. -/
abbrev Operation (σ α : Type) := σ → Except Failure α × σ

/-- One request, and what follows when it is granted. -/
def Asked.orFail {σ α β : Type} (request path : String) (asked : Asked σ α)
    (next : α → Operation σ β) : Operation σ β := fun s =>
  match asked s with
  | (.ok a, s) => next a s
  | (.error code, s) => (.error (refusal request path code), s)

/-- The end of an operation. -/
def Operation.result {σ α : Type} (a : α) : Operation σ α := fun s => (.ok a, s)

namespace Peer

variable {σ : Type} (p : Peer σ)

/-- Lists a directory. -/
def list (path : String) : Operation σ Listing :=
  (p.readDirectory path).orFail "list" path fun entries => .result (.ofEntries path entries)

/-- Brings a file. -/
def download (path : String) : Operation σ Bytes :=
  (p.openToRead path).orFail "open" path fun file =>
    (p.readToEnd file).orFail "read" path .result

/-- Sends a file. -/
def upload (path : String) (contents : Bytes) : Operation σ Unit :=
  (p.create path).orFail "create" path fun file =>
    (p.writeAll file contents).orFail "write" path fun _ =>
      (p.finish file).orFail "close" path .result

/-- Makes a directory. -/
def mkdir (path : String) : Operation σ Unit :=
  (p.makeDirectory path).orFail "mkdir" path .result

/-- Deletes a file or an empty directory. -/
def delete (path : String) : Operation σ Unit :=
  (p.stat path).orFail "stat" path fun attributes =>
    if attributes.isDirectory then (p.removeDirectory path).orFail "rmdir" path .result
    else (p.removeFile path).orFail "remove" path .result

end Peer

/-! ## The daemon's own file server as a peer -/

namespace Peer

open Sftp (Request Reply Server)
open Files (FileSystem)

/-- The state of the daemon's file server with the files that it serves. -/
abbrev Served := Server × FileSystem

/-- One request to the daemon's file server. -/
def ask (r : Request) (s : Served) : Reply × Served :=
  let o := s.1.handle s.2 r
  (o.reply, o.server, o.files)

/-- A request that is answered with a code only. -/
def asked (r : Request) : Asked Served Unit := fun s =>
  match ask r s with
  | (.status .ok, s) => (.ok (), s)
  | (.status code, s) => (.error code, s)
  | (_, s) => (.error .failure, s)

/-- A request that is answered with a handle. -/
def askedHandle (r : Request) : Asked Served String := fun s =>
  match ask r s with
  | (.handle handle, s) => (.ok handle, s)
  | (.status code, s) => (.error code, s)
  | (_, s) => (.error .failure, s)

/-- What a client is told of a file's attributes. -/
def attributesOf (a : FileSystem.Attributes) : Attributes where
  isDirectory := a.kind = .directory
  size := if a.kind = .directory then none else some a.size

/-- A request that is answered with attributes. -/
def askedAttributes (r : Request) : Asked Served Attributes := fun s =>
  match ask r s with
  | (.attributes a, s) => (.ok (attributesOf a), s)
  | (.status code, s) => (.error code, s)
  | (_, s) => (.error .failure, s)

/-- The entries of a listing, as far as they could be looked at. -/
def entriesOf (names : List (String × Option FileSystem.Attributes)) : List DirectoryEntry :=
  names.map fun (name, attributes) =>
    { name, attributes := (attributes.map attributesOf).getD { isDirectory := false } }

/-- Lists a directory through a handle that is closed afterwards. -/
def askedListing (path : String) : Asked Served (List DirectoryEntry) := fun s =>
  match askedHandle (.openDirectory path) s with
  | (.error code, s) => (.error code, s)
  | (.ok handle, s) =>
    match ask (.readDirectory handle) s with
    | (.names names, s) => (.ok (entriesOf names), (asked (.close handle) s).2)
    | (.status .eof, s) => (.ok [], (asked (.close handle) s).2)
    | (.status code, s) => (.error code, s)
    | (_, s) => (.error .failure, s)

/-- The most that a client asks for or sends at once. -/
def pieceLength : Nat := 261120

/-- Reads a file from an offset to its end. The first argument bounds the number
of requests. -/
def readFrom : Nat → String → Nat → Asked Served Bytes
  | 0, _, _, s => (.error .failure, s)
  | requests + 1, handle, offset, s =>
    match ask (.read handle offset pieceLength) s with
    | (.data bytes, s) =>
      match readFrom requests handle (offset + bytes.length) s with
      | (.ok rest, s) => (.ok (bytes ++ rest), s)
      | (.error code, s) => (.error code, s)
    | (.status .eof, s) => (.ok [], s)
    | (.status code, s) => (.error code, s)
    | (_, s) => (.error .failure, s)

/-- The length of the open file that a handle stands for. -/
def openLength (handle : String) (s : Served) : Nat :=
  match s.1.file? handle with
  | some file => ((s.2.attributes? file.node).map (·.size)).getD 0
  | none => 0

/-- Writes a file from an offset on, a piece at a time. The first argument bounds
the number of pieces. -/
def writeFrom : Nat → String → Nat → Bytes → Asked Served Unit
  | 0, _, _, _, s => (.ok (), s)
  | pieces + 1, handle, offset, data, s =>
    if data.isEmpty then (.ok (), s)
    else
      match asked (.write handle offset (data.take pieceLength)) s with
      | (.ok (), s) =>
        writeFrom pieces handle (offset + pieceLength) (data.drop pieceLength) s
      | (.error code, s) => (.error code, s)

/-- The daemon's file server. -/
def served : Peer Served where
  readDirectory := askedListing
  openToRead path := askedHandle (.openFile path { read := true })
  readToEnd handle := fun s => readFrom (openLength handle s + 1) handle 0 s
  create path := askedHandle (.openFile path { write := true, create := true, truncate := true })
  writeAll handle data := writeFrom data.length handle 0 data
  finish handle := asked (.close handle)
  makeDirectory path := asked (.makeDirectory path)
  stat path := askedAttributes (.stat path true)
  removeDirectory path := asked (.removeDirectory path)
  removeFile path := asked (.remove path)

end Peer

end ShellGateway.Remote
