import Ftp.LocalDisk.Handles

/-!
# A local file system

The files of one machine: a tree of directories with regular files, symbolic links and a device that
swallows everything, and the handles of the files that are open. A file that is removed while it is
open stays readable and writable through its handle.
-/

namespace Ftp

/-- What lies behind a directory entry. -/
inductive Content where
  | file (bytes : List UInt8)
  /-- The entries by name, each with the number of its node. -/
  | dir (entries : List (Text × Nat))
  /-- A symbolic link to a path. -/
  | link (target : Text)
  /-- Reads as empty, and takes whatever is written. -/
  | device

structure DiskNode where
  content : Content
  /-- The time of the last change, in seconds since the beginning of 1970. -/
  modified : Int := 0

/-- A file that is open. -/
structure OpenNode where
  node : Nat
  mode : OpenMode
  position : Nat := 0

structure LocalDisk where
  /-- Nodes keep their numbers, also when no directory holds them any more. The first one is the
  root. -/
  nodes : Array DiskNode
  handles : Handles OpenNode := {}

namespace LocalDisk

/-- An empty directory, under the path `home`, and the null device. -/
def empty : LocalDisk where
  nodes :=
    #[⟨.dir [("tmp", 1), ("dev", 3)], 0⟩, ⟨.dir [("ftp-folder", 2)], 0⟩, ⟨.dir [], 0⟩,
      ⟨.dir [("null", 4)], 0⟩, ⟨.device, 0⟩]

/-- The path of the directory that is empty at first. -/
def home : Text := "/tmp/ftp-folder"

/-- What a path leads to. -/
inductive Place where
  | node (number : Nat)
  /-- Nothing, but an entry of that name could be made in the directory. -/
  | vacant (directory : Nat) (name : Text)

/-- What a path is followed for. -/
inductive Goal where
  /-- The entry that the path names, which may be a link. -/
  | entry
  /-- What the path leads to through all links. -/
  | target
  /-- The same, where a file could be made. No slash may follow the name of a file. -/
  | file
  deriving DecidableEq, Repr

/-- A path can pass through so many symbolic links. -/
def maxLinks : Nat := 40

/-- An entry of a directory has no longer name than this, in bytes. -/
def maxNameLength : Nat := 255

/-- A path is no longer than this, in bytes. -/
def maxPathLength : Nat := 4095

variable (disk : LocalDisk)

def content (number : Nat) : Content :=
  match disk.nodes[number]? with
  | some node => node.content
  | none => .dir []

/-- The node of the entry in the directory. -/
def lookup? (directory : Nat) (name : Text) : Option Nat :=
  match disk.content directory with
  | .dir entries => entries.lookup name
  | _ => none

/-- Follows the segments of a path from the directory at the top of the stack, which holds the
directories on the way from the root. Empty segments stand for slashes that follow another one. Each
round takes one segment, or a link in its place, from the fuel. -/
def walk (goal : Goal) :
    (fuel links : Nat) → (stack : List Nat) → List Text → Except IoErrorKind Place
  | 0, _, _, _ => .error .other
  | _, _, stack, [] => .ok (.node (stack.headD 0))
  | fuel + 1, links, stack, segment :: rest =>
    if segment = [] ∨ segment = ['.'] then walk goal fuel links stack rest
    else if segment = ['.', '.'] then walk goal fuel links stack.tail rest
    else if maxNameLength < Utf8.length segment then .error .other
    else if goal = .file ∧ rest ≠ [] ∧ rest.all (· = []) then .error .other
    else
      match disk.lookup? (stack.headD 0) segment with
      | none => if rest = [] then .ok (.vacant (stack.headD 0) segment) else .error .notFound
      | some number =>
        match disk.content number with
        | .dir _ => walk goal fuel links (number :: stack) rest
        | .link target =>
          if rest = [] ∧ goal = .entry then .ok (.node number)
          else
            match links with
            | 0 => .error .other
            | links + 1 =>
              let stack := if target.head? = some '/' then [] else stack
              walk goal fuel links stack (Text.split '/' target ++ rest)
        | _ => if rest = [] then .ok (.node number) else .error .other

/-- The longest path, and the longest path that links can make of it, in segments. -/
def walkFuel : Nat := 200000

/-- Why a text is no path at all. -/
def refusal? (path : Text) : Option IoErrorKind :=
  if path = [] then some .notFound
  else if '\x00' ∈ path ∨ maxPathLength < Utf8.length path then some .other
  else none

/-- What the path leads to. -/
def find (goal : Goal) (path : Text) : Except IoErrorKind Place :=
  match refusal? path with
  | some kind => .error kind
  | none => disk.walk goal walkFuel maxLinks [] (Text.split '/' path)

/-- The path without the slashes at its end, and whether there were any. -/
def trimSlashes (path : Text) : Text × Bool :=
  let trimmed := Text.dropEnd (· = '/') path
  if trimmed = [] then (path, false) else (trimmed, trimmed.length < path.length)

/-- The entry that the path without the slashes at its end names, and whether there were any. -/
def findEntry (path : Text) : Except IoErrorKind (Place × Bool) :=
  match refusal? path with
  | some kind => .error kind
  | none =>
    let (trimmed, hadSlash) := trimSlashes path
    (disk.walk .entry walkFuel maxLinks [] (Text.split '/' trimmed)).map fun place =>
      (place, hadSlash)

/-- The node that the path leads to through all links. -/
def locate (path : Text) : Except IoErrorKind Nat :=
  match disk.find .target path with
  | .ok (.node number) => .ok number
  | .ok (.vacant _ _) => .error .notFound
  | .error kind => .error kind

def setContent (number : Nat) (content : Content) : LocalDisk :=
  { disk with nodes := disk.nodes.modify number fun node => { node with content } }

/-- Adds a node under the name in the directory. -/
def add (directory : Nat) (name : Text) (content : Content) : Nat × LocalDisk :=
  let number := disk.nodes.size
  let disk := { disk with nodes := disk.nodes.push { content } }
  match disk.content directory with
  | .dir entries => (number, disk.setContent directory (.dir ((name, number) :: entries)))
  | _ => (number, disk)

/-- Removes the entry that leads to the node. -/
def unlink (number : Nat) : LocalDisk :=
  { disk with
    nodes := disk.nodes.map fun node =>
      match node.content with
      | .dir entries => { node with content := .dir (entries.filter fun entry => entry.2 ≠ number) }
      | _ => node }

/-! ## Open files -/

/-- Opens the node. -/
def issue (number : Nat) (mode : OpenMode) : File × LocalDisk :=
  let (file, handles) := disk.handles.issue { node := number, mode }
  (file, { disk with handles })

def openRead (path : Text) : Except IoErrorKind (File × LocalDisk) :=
  match disk.locate path with
  | .ok number => .ok (disk.issue number .read)
  | .error kind => .error kind

/-- Opens a file for writing, after emptying or making it. -/
def openWrite (path : Text) : Except IoErrorKind (File × LocalDisk) :=
  match disk.find .file path with
  | .error kind => .error kind
  | .ok (.vacant directory name) =>
    let (number, disk) := disk.add directory name (.file [])
    .ok (disk.issue number .write)
  | .ok (.node number) =>
    match disk.content number with
    | .dir _ => .error .other
    | .file _ => .ok ((disk.setContent number (.file [])).issue number .write)
    | _ => .ok (disk.issue number .write)

/-- The failure of an operation on a handle that denotes nothing. -/
def stale : IoError :=
  ⟨.notFound, "stale file handle"⟩

/-- Takes the next bytes of an open file. -/
def read (file : File) (limit : Nat) : Except IoError (List UInt8 × LocalDisk) :=
  match disk.handles.get? file with
  | none => .error stale
  | some opened =>
    match opened.mode, disk.content opened.node with
    | .read, .file bytes =>
      let taken := (bytes.drop opened.position).take limit
      let moved := { opened with position := opened.position + taken.length }
      .ok (taken, { disk with handles := disk.handles.set file moved })
    | .read, .device => .ok ([], disk)
    | _, _ => .error ⟨.other, ""⟩

/-- The bytes with `written` in place of those from `position` on, and zeros in a gap before it. -/
def overwrite (bytes : List UInt8) (position : Nat) (written : List UInt8) : List UInt8 :=
  bytes.take position ++ List.replicate (position - bytes.length) 0 ++ written ++
    bytes.drop (position + written.length)

/-- Writes bytes at the position of an open file. -/
def write (file : File) (written : List UInt8) : Except IoError LocalDisk :=
  match disk.handles.get? file with
  | none => .error stale
  | some opened =>
    match opened.mode, disk.content opened.node with
    | .write, .file bytes =>
      let moved := { opened with position := opened.position + written.length }
      let disk := { disk with handles := disk.handles.set file moved }
      if written = [] then .ok disk
      else .ok (disk.setContent opened.node (.file (overwrite bytes opened.position written)))
    | .write, .device => .ok disk
    | _, _ => if written = [] then .ok disk else .error ⟨.other, ""⟩

def close (file : File) : LocalDisk :=
  { disk with handles := disk.handles.erase file }

/-- The number of files that are open. -/
def openFiles : Nat :=
  disk.handles.size

/-! ## Files and directories -/

/-- Kind, size and time of what the path leads to. Links are followed, so that only a device is
neither a file nor a directory. -/
def stat (path : Text) : Except IoErrorKind (FileKind × Nat × Int) :=
  match disk.locate path with
  | .error kind => .error kind
  | .ok number =>
    let modified := ((disk.nodes[number]?).map DiskNode.modified).getD 0
    match disk.content number with
    | .file bytes => .ok (.file, bytes.length, modified)
    | .dir _ => .ok (.dir, 0, modified)
    | _ => .ok (.link, 0, modified)

/-- The names in the directory, in the order of their code points. -/
def readDir (path : Text) : Except IoErrorKind (List Text) :=
  match disk.locate path with
  | .error kind => .error kind
  | .ok number =>
    match disk.content number with
    | .dir entries => .ok ((entries.map Prod.fst).mergeSort fun a b => !b.lex a (· < ·))
    | _ => .error .other

def removeFile (path : Text) : Except IoErrorKind LocalDisk :=
  match disk.findEntry path with
  | .error kind => .error kind
  | .ok (.vacant _ _, _) => .error .notFound
  | .ok (.node number, hadSlash) =>
    match disk.content number with
    | .dir _ => .error .other
    | _ => if hadSlash then .error .other else .ok (disk.unlink number)

def makeDir (path : Text) : Except IoErrorKind LocalDisk :=
  match disk.findEntry path with
  | .error kind => .error kind
  | .ok (.node _, _) => .error .alreadyExists
  | .ok (.vacant directory name, _) => .ok (disk.add directory name (.dir [])).2

/-- The last segment of a path is `.` or `..`, which name no entry that could be removed. -/
def endsInDots (path : Text) : Bool :=
  let last := (Text.split '/' path).getLast?.getD []
  last = ['.'] || last = ['.', '.']

def removeDir (path : Text) : Except IoErrorKind LocalDisk :=
  match disk.findEntry path with
  | .error kind => .error kind
  | .ok (.vacant _ _, _) => .error .notFound
  | .ok (.node number, _) =>
    match disk.content number with
    | .dir [] => if endsInDots (trimSlashes path).1 then .error .other else .ok (disk.unlink number)
    | _ => .error .other

/-! ## Set-up -/

/-- Makes a symbolic link at the path. Its target has to be a path too. -/
def makeLink (path target : Text) : Except IoErrorKind LocalDisk :=
  if '\x00' ∈ path then .error .other
  else
    match refusal? target, disk.findEntry path with
    | some kind, _ => .error kind
    | none, .error kind => .error kind
    | none, .ok (.node _, _) => .error .alreadyExists
    | none, .ok (.vacant _ _, true) => .error .notFound
    | none, .ok (.vacant directory name, false) =>
      .ok (disk.add directory name (.link target)).2

/-- Sets the time of the last change of a file. -/
def setModified (path : Text) (modified : Int) : Except IoErrorKind LocalDisk :=
  match disk.locate path with
  | .error kind => .error kind
  | .ok number =>
    match disk.content number with
    | .dir _ => .error .other
    | _ => .ok { disk with nodes := disk.nodes.modify number fun node => { node with modified } }

end LocalDisk

end Ftp
