import ShellGateway.Dictionary
import ShellGateway.Files.Path
import ShellGateway.Text.Bytes

/-!
# Files

A file system keeps nodes under numbers. A directory maps names to numbers, so
a file that was opened stays what it is when its name is taken away or given to
another. Names are resolved component by component from the root or from a
directory, through symbolic links, of which one resolution follows at most
forty.

Whoever uses the files may do anything that the files allow: permissions are
recorded and shown, and only starting a program asks for one.
-/

namespace ShellGateway.Files

/-- Why a file operation fails. -/
inductive Fault where
  | notFound
  | permissionDenied
  | alreadyExists
  | notADirectory
  | isADirectory
  | notEmpty
  | tooManyLinks
  | nameTooLong
  | invalid
  | busy
  | badDescriptor
  | tooLarge
  | noSpace
  deriving DecidableEq, Repr

/-- The operating system's wording of a fault. -/
def Fault.message : Fault → String
  | notFound => "No such file or directory"
  | permissionDenied => "Permission denied"
  | alreadyExists => "File exists"
  | notADirectory => "Not a directory"
  | isADirectory => "Is a directory"
  | notEmpty => "Directory not empty"
  | tooManyLinks => "Too many levels of symbolic links"
  | nameTooLong => "File name too long"
  | invalid => "Invalid argument"
  | busy => "Device or resource busy"
  | badDescriptor => "Bad file descriptor"
  | tooLarge => "File too large"
  | noSpace => "No space left on device"

/-- The number under which a node is kept. -/
abbrev NodeId := Nat

/-- A file that is not a list of bytes. -/
inductive Device where
  /-- Takes everything and holds nothing. -/
  | null
  /-- Takes everything and holds zeros without end. -/
  | zero
  /-- Takes nothing and holds zeros without end. -/
  | full
  deriving DecidableEq, Repr

/-- What is kept under a number. -/
inductive Node where
  | file (contents : Bytes) (mode : Nat)
  | directory (entries : Dictionary String NodeId) (mode : Nat)
  | link (target : String)
  | device (which : Device)
  deriving Repr

/-- The files: nodes by number, the next free number, and the root under number
zero. -/
structure FileSystem where
  nodes : Dictionary NodeId Node
  next : NodeId
  deriving Repr

/-- The number of the root directory. -/
def rootId : NodeId := 0

/-- Permissions of new files and directories. -/
def newFileMode : Nat := 0o644
def newDirectoryMode : Nat := 0o755

/-- A file system that holds an empty root directory. -/
def FileSystem.empty : FileSystem where
  nodes := Dictionary.empty.insert rootId (.directory .empty newDirectoryMode)
  next := rootId + 1

/-- A directory as it was reached: the names on the way with the nodes under
them, the last first. The root is reached by no names. -/
abbrev Trail := List (String × NodeId)

/-- The node at the end of a trail. -/
def Trail.node (t : Trail) : NodeId :=
  match t with
  | [] => rootId
  | (_, id) :: _ => id

/-- The names on the way from the root. -/
def Trail.names (t : Trail) : List String :=
  (t.map (·.1)).reverse

/-- The canonical path of a trail. -/
def Trail.path (t : Trail) : String :=
  Path.absolute t.names

/-- Symbolic links that one resolution follows. -/
def linkLimit : Nat := 40

namespace FileSystem

/-- The entries of a directory. -/
def entries? (fs : FileSystem) (id : NodeId) : Option (Dictionary String NodeId) :=
  match fs.nodes.get? id with
  | some (.directory entries _) => some entries
  | _ => none

/-- Whether a node is a directory. -/
def isDirectory (fs : FileSystem) (id : NodeId) : Bool :=
  (fs.entries? id).isSome

/-- The node under a name in a directory. -/
def child (fs : FileSystem) (directory : NodeId) (name : String) : Except Fault NodeId :=
  match fs.entries? directory with
  | none => .error .notADirectory
  | some entries =>
    if name.utf8ByteSize > Path.nameLimit then .error .nameTooLong
    else
      match entries.get? name with
      | some id => .ok id
      | none => .error .notFound

/-- Where a symbolic link points, if a node is one. -/
def linkTarget? (fs : FileSystem) (id : NodeId) : Option String :=
  match fs.nodes.get? id with
  | some (.link target) => some target
  | _ => none

/-- Walks through components from a directory. `links` is the number of links
that may be followed, and the answer says how many of them are left; a link in
the last place is followed when `follow` says so. -/
def walk (fs : FileSystem) (follow : Bool) (links : Nat) (trail : Trail) :
    List String → Except Fault (Trail × Nat)
  | [] => .ok (trail, links)
  | name :: rest =>
    if !fs.isDirectory trail.node then .error .notADirectory
    else if name = "." then walk fs follow links trail rest
    else if name = ".." then walk fs follow links trail.tail rest
    else
      match fs.child trail.node name with
      | .error e => .error e
      | .ok id =>
        match fs.linkTarget? id with
        | none => walk fs follow links ((name, id) :: trail) rest
        | some target =>
          if rest.isEmpty && !follow then .ok ((name, id) :: trail, links)
          else
            match links with
            | 0 => .error .tooManyLinks
            | links + 1 =>
              let start := if Path.isAbsolute target then [] else trail
              walk fs follow links start (Path.steps target ++ rest)
termination_by components => (links, components.length)

/-- A walk follows no more links than it may. -/
theorem left_le_of_walk {fs : FileSystem} {follow : Bool} {links left : Nat} {trail found : Trail}
    {components : List String} (h : fs.walk follow links trail components = .ok (found, left)) :
    left ≤ links := by
  fun_induction walk fs follow links trail components <;> grind

/-- Whether a path holds the character that ends texts for the operating system. -/
def holdsNul (path : String) : Bool :=
  path.toList.contains '\x00'

/-- The faults of a path that no file system can hold. -/
def checkText (path : String) : Except Fault Unit :=
  if holdsNul path then .error .invalid
  else if path.isEmpty then .error .notFound
  else if path.utf8ByteSize ≥ Path.lengthLimit then .error .nameTooLong
  else .ok ()

/-- Where a path starts: at the root, or at a given directory. -/
def startOf (at' : Trail) (path : String) : Trail :=
  if Path.isAbsolute path then [] else at'

/-- Resolves a path. -/
def resolve (fs : FileSystem) (at' : Trail) (follow : Bool) (path : String) : Except Fault Trail := do
  checkText path
  let (trail, _) ← fs.walk follow linkLimit (startOf at' path) (Path.steps path)
  return trail

/-- Resolves the directory that would hold the last component of a path, and
follows at most `links` links on the way. The answer says how many are left. -/
def walkToParent (fs : FileSystem) (links : Nat) (at' : Trail) (path : String) :
    Except Fault (Trail × Nat) :=
  match checkText path with
  | .error e => .error e
  | .ok () =>
    match fs.walk true links (startOf at' path) (Path.splitLast path).1 with
    | .error e => .error e
    | .ok (parent, left) =>
      if fs.isDirectory parent.node then .ok (parent, left) else .error .notADirectory

theorem left_le_of_walkToParent {fs : FileSystem} {links left : Nat} {at' parent : Trail}
    {path : String} (h : fs.walkToParent links at' path = .ok (parent, left)) : left ≤ links := by
  unfold walkToParent at h
  split at h
  · cases h
  · split at h
    · cases h
    · rename_i walked
      split at h
      · cases h
        exact left_le_of_walk walked
      · cases h

/-- Resolves the directory that holds the last component of a path, and tells
what the last component is. -/
def resolveParent (fs : FileSystem) (at' : Trail) (path : String) :
    Except Fault (Trail × Path.Last) := do
  let (parent, _) ← fs.walkToParent linkLimit at' path
  return (parent, (Path.splitLast path).2)

/-- The canonical path of an existing file, unless it is too long for a path. -/
def canonical (fs : FileSystem) (at' : Trail) (path : String) : Except Fault String := do
  let trail ← fs.resolve at' true path
  if trail.path.utf8ByteSize ≥ Path.lengthLimit then throw .nameTooLong
  return trail.path

/-! ## What files look like -/

/-- The kinds of file. -/
inductive Kind where
  | file
  | directory
  | link
  | device
  deriving DecidableEq, Repr

/-- The attributes of a file. -/
structure Attributes where
  kind : Kind
  size : Nat
  /-- Kind and permissions in the operating system's encoding. -/
  mode : Nat
  deriving DecidableEq, Repr

/-- The attributes of a node. -/
def attributes? (fs : FileSystem) (id : NodeId) : Option Attributes :=
  (fs.nodes.get? id).map fun
    | .file contents mode => ⟨.file, contents.length, 0o100000 + mode⟩
    | .directory _ mode => ⟨.directory, 4096, 0o040000 + mode⟩
    | .link target => ⟨.link, target.utf8ByteSize, 0o120777⟩
    | .device _ => ⟨.device, 0, 0o020666⟩

/-- The attributes of the file that a path names. -/
def stat (fs : FileSystem) (at' : Trail) (follow : Bool) (path : String) :
    Except Fault Attributes := do
  let trail ← fs.resolve at' follow path
  match fs.attributes? trail.node with
  | some attributes => return attributes
  | none => throw .notFound

/-- The names in a directory with the nodes under them, in byte order. -/
def list (fs : FileSystem) (at' : Trail) (path : String) : Except Fault (List (String × NodeId)) := do
  let trail ← fs.resolve at' true path
  match fs.entries? trail.node with
  | some entries => return entries.sortedBy fun a b => !(decide (b < a))
  | none => throw .notADirectory

/-! ## Changing directories -/

/-- Replaces a node. -/
def put (fs : FileSystem) (id : NodeId) (node : Node) : FileSystem :=
  { fs with nodes := fs.nodes.insert id node }

/-- Binds a name in a directory. -/
def bind (fs : FileSystem) (directory : NodeId) (name : String) (id : NodeId) : FileSystem :=
  match fs.nodes.get? directory with
  | some (.directory entries mode) => fs.put directory (.directory (entries.insert name id) mode)
  | _ => fs

/-- Takes a name away from a directory. -/
def unbind (fs : FileSystem) (directory : NodeId) (name : String) : FileSystem :=
  match fs.nodes.get? directory with
  | some (.directory entries mode) => fs.put directory (.directory (entries.erase name) mode)
  | _ => fs

/-- Keeps a new node under a name in a directory. -/
def create (fs : FileSystem) (directory : NodeId) (name : String) (node : Node) :
    FileSystem × NodeId :=
  let id := fs.next
  (({ fs with nodes := fs.nodes.insert id node, next := id + 1 }).bind directory name id, id)

/-- Makes a directory. -/
def mkdir (fs : FileSystem) (at' : Trail) (path : String) : Except Fault FileSystem := do
  let (parent, last) ← fs.resolveParent at' path
  match last with
  | .name name _ =>
    match fs.child parent.node name with
    | .ok _ => throw .alreadyExists
    | .error .notFound =>
      return (fs.create parent.node name (.directory .empty newDirectoryMode)).1
    | .error e => throw e
  | _ => throw .alreadyExists

/-- Removes an empty directory. -/
def rmdir (fs : FileSystem) (at' : Trail) (path : String) : Except Fault FileSystem := do
  let (parent, last) ← fs.resolveParent at' path
  match last with
  | .name name _ =>
    let id ← fs.child parent.node name
    match fs.entries? id with
    | none => throw .notADirectory
    | some entries =>
      if entries.size = 0 then return fs.unbind parent.node name else throw .notEmpty
  | .dot => throw .invalid
  | .dotDot => throw .notEmpty
  | .root => throw .busy

/-- Removes a file that is no directory. -/
def unlink (fs : FileSystem) (at' : Trail) (path : String) : Except Fault FileSystem := do
  let (parent, last) ← fs.resolveParent at' path
  match last with
  | .name name slash =>
    let id ← fs.child parent.node name
    if fs.isDirectory id then throw .isADirectory
    else if slash then throw .notADirectory
    else return fs.unbind parent.node name
  | _ => throw .isADirectory

/-- What the name that a file is moved to is bound to. -/
def childOrFree (fs : FileSystem) (directory : NodeId) (name : String) :
    Except Fault (Option NodeId) :=
  match fs.child directory name with
  | .ok id => .ok (some id)
  | .error .notFound => .ok none
  | .error e => .error e

/-- Moves a file. A file of the same kind under the new name is replaced, a
directory only when it is empty. -/
def rename (fs : FileSystem) (at' : Trail) (old new : String) : Except Fault FileSystem := do
  if holdsNul new then throw .invalid
  let (oldParent, oldLast) ← fs.resolveParent at' old
  let (newParent, newLast) ← fs.resolveParent at' new
  match oldLast, newLast with
  | .name oldName oldSlash, .name newName newSlash =>
    let id ← fs.child oldParent.node oldName
    let target? ← fs.childOrFree newParent.node newName
    let isDir := fs.isDirectory id
    if !isDir && (oldSlash || newSlash) then throw .notADirectory
    if newParent.any (·.2 == id) then throw .invalid
    match target? with
    | some target =>
      if target = id then return fs
      if oldParent.any (·.2 == target) then throw .notEmpty
      if isDir && !fs.isDirectory target then throw .notADirectory
      if !isDir && fs.isDirectory target then throw .isADirectory
      match fs.entries? target with
      | some entries => if entries.size ≠ 0 then throw .notEmpty
      | none => pure ()
    | none => pure ()
    return (fs.unbind oldParent.node oldName).bind newParent.node newName id
  | _, _ => throw .busy

/-! ## Contents -/

/-- How a file is opened. -/
structure Access where
  read : Bool := false
  write : Bool := false
  append : Bool := false
  create : Bool := false
  /-- With `create`: the file must not exist yet. -/
  exclusive : Bool := false
  truncate : Bool := false
  deriving DecidableEq, Repr

/-- Whether the access asked for is contradictory: something must be read or
written, only a writer may create or cut, and one who appends may only cut what
he creates. -/
def Access.contradictory (a : Access) : Bool :=
  let creates := a.create || a.exclusive
  if !a.read && !a.write && !a.append then true
  else if a.append then a.truncate && !a.exclusive
  else !a.write && (a.truncate || creates)

/-- Whether the file may be written through this access. -/
def Access.writes (a : Access) : Bool := a.write || a.append

/-- Opens an existing node. -/
def openNode (fs : FileSystem) (a : Access) (id : NodeId) : Except Fault (FileSystem × NodeId) :=
  match fs.nodes.get? id with
  | some (.directory _ _) =>
    if a.writes || a.create || a.exclusive then .error .isADirectory else .ok (fs, id)
  | some (.file _ mode) =>
    if a.truncate && a.writes then .ok (fs.put id (.file [] mode), id) else .ok (fs, id)
  | some (.link _) => .error .tooManyLinks
  | some (.device _) => .ok (fs, id)
  | none => .error .notFound

/-- Opens the file that a path names, creating it when that was asked for. A
link to nothing is followed to the place where the file is to be. `links` is the
number of links that may be followed, on the way and at its end together. -/
def openCreating (fs : FileSystem) (a : Access) (links : Nat) (at' : Trail) (path : String) :
    Except Fault (FileSystem × NodeId) :=
  match h : fs.walkToParent links at' path with
  | .error e => .error e
  | .ok (parent, left) =>
    match (Path.splitLast path).2 with
    | .name name slash =>
      if slash then .error .isADirectory
      else
        match fs.child parent.node name with
        | .error .notFound => .ok (fs.create parent.node name (.file [] newFileMode))
        | .error e => .error e
        | .ok id =>
          if a.exclusive then .error .alreadyExists
          else
            match fs.linkTarget? id, left with
            | none, _ => fs.openNode a id
            | some _, 0 => .error .tooManyLinks
            | some target, more + 1 =>
              have : more + 1 ≤ links := left_le_of_walkToParent h
              fs.openCreating a more parent target
    | _ => .error .isADirectory
termination_by links
decreasing_by omega

/-- Opens a file. -/
def openFile (fs : FileSystem) (at' : Trail) (a : Access) (path : String) :
    Except Fault (FileSystem × NodeId) := do
  if holdsNul path || a.contradictory then throw .invalid
  if a.create || a.exclusive then fs.openCreating a linkLimit at' path
  else
    let trail ← fs.resolve at' true path
    fs.openNode a trail.node

/-- Positions in a file are below this limit. -/
def positionLimit : Nat := 0x8000000000000000

/-- A file ends before this position. -/
def sizeLimit : Nat := 0x100000000000

/-- The position in a node that an offset leads to. A device has only one. -/
def seek (fs : FileSystem) (id : NodeId) (offset : Nat) : Except Fault Nat :=
  match fs.nodes.get? id with
  | some (.device _) => .ok 0
  | _ => if offset ≥ positionLimit then .error .invalid else .ok offset

/-- The bytes of a node from a position on, at most `count` of them. -/
def readAt (fs : FileSystem) (id : NodeId) (offset count : Nat) : Except Fault Bytes :=
  if offset + count ≥ positionLimit then .error .invalid
  else
    match fs.nodes.get? id with
    | some (.file contents _) => .ok ((contents.drop offset).take count)
    | some (.directory _ _) => .error .isADirectory
    | some (.device .null) => .ok []
    | some (.device .zero) | some (.device .full) => .ok (List.replicate count 0)
    | _ => .error .badDescriptor

/-- Contents with `bytes` laid over them from a position on; a gap before the
position is filled with zeros. -/
def overlay (contents : Bytes) (offset : Nat) (bytes : Bytes) : Bytes :=
  contents.take offset ++ List.replicate (offset - contents.length) 0 ++ bytes
    ++ contents.drop (offset + bytes.length)

/-- Writes at least one byte to a device. -/
def writeDevice (fs : FileSystem) : Device → Except Fault FileSystem
  | .null | .zero => .ok fs
  | .full => .error .noSpace

/-- Writes bytes to a node at a position. -/
def writeAt (fs : FileSystem) (id : NodeId) (offset : Nat) (bytes : Bytes) :
    Except Fault FileSystem :=
  if offset + bytes.length ≥ positionLimit then .error .tooLarge
  else
    match fs.nodes.get? id with
    | some (.file contents mode) =>
      if offset + bytes.length ≥ sizeLimit then .error .tooLarge
      else .ok (fs.put id (.file (overlay contents offset bytes) mode))
    | some (.device which) => writeDevice fs which
    | _ => .error .badDescriptor

/-- Writes bytes to the end of a node. -/
def appendTo (fs : FileSystem) (id : NodeId) (bytes : Bytes) : Except Fault FileSystem :=
  match fs.nodes.get? id with
  | some (.file contents mode) => .ok (fs.put id (.file (contents ++ bytes) mode))
  | some (.device which) => writeDevice fs which
  | _ => .error .badDescriptor

/-- The whole contents of the file that a path names. -/
def contents (fs : FileSystem) (at' : Trail) (path : String) : Except Fault Bytes := do
  let trail ← fs.resolve at' true path
  match fs.nodes.get? trail.node with
  | some (.file contents _) => return contents
  | some (.directory _ _) => throw .isADirectory
  | _ => return []

/-! ## Whole trees -/

/-- A file in a listing of a whole tree. -/
inductive Item where
  | directory (path : List String)
  | file (path : List String) (contents : Bytes)
  | link (path : List String) (target : String)
  deriving DecidableEq, Repr

/-- Everything below a directory, depth first, names in byte order. The first
argument bounds the depth. -/
def itemsBelow (fs : FileSystem) : (depth : Nat) → List String → NodeId → List Item
  | 0, _, _ => []
  | depth + 1, path, id =>
    match fs.entries? id with
    | none => []
    | some entries =>
      (entries.sortedBy fun a b => !(decide (b < a))).flatMap fun (name, child) =>
        let here := path ++ [name]
        match fs.nodes.get? child with
        | some (.directory _ _) => .directory here :: itemsBelow fs depth here child
        | some (.file contents _) => [.file here contents]
        | some (.link target) => [.link here target]
        | _ => []

/-- Everything below the directory that a path names. -/
def items (fs : FileSystem) (path : String) : List Item :=
  match fs.resolve [] true path with
  | .ok trail => fs.itemsBelow fs.next [] trail.node
  | .error _ => []

/-- Makes a directory and those above it where they are missing. -/
def mkdirAll (fs : FileSystem) (path : String) : FileSystem :=
  let (fs, _) := (Path.components path).foldl (fun (acc : FileSystem × List String) name =>
    let here := acc.2 ++ [name]
    ((acc.1.mkdir [] (Path.absolute here)).toOption.getD acc.1, here)) (fs, [])
  fs

/-- Keeps a file at a path, with the directories above it. -/
def install (fs : FileSystem) (path : String) (node : Node) : FileSystem :=
  let fs := fs.mkdirAll (Path.absolute (Path.components path).dropLast)
  match fs.resolveParent [] path with
  | .ok (parent, .name name _) => (fs.create parent.node name node).1
  | _ => fs

/-- Permissions of a directory in which everyone may keep files of his own. -/
def sharedDirectoryMode : Nat := 0o1777

/-- A file system with the devices of a machine and a directory for temporary
files. -/
def machine : FileSystem :=
  [("null", Device.null), ("zero", .zero), ("full", .full)].foldl
    (fun fs (name, which) => fs.install ("/dev/" ++ name) (.device which))
    (FileSystem.empty.install "/tmp" (.directory .empty sharedDirectoryMode))

end FileSystem

end ShellGateway.Files
