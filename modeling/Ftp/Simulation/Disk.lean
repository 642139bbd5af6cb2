import Ftp.Simulation.Failure

/-!
# A disk in memory

Files and directories by their exact paths. There is no directory tree behind the paths: a node lies
in a directory if its path is that of the directory with one more segment.
-/

namespace Ftp.Simulation

/-- An operation that fails on a node. -/
inductive NodeFault where
  | stat
  | readDir
  | open
  | remove
  deriving DecidableEq, Repr

/-- What lies at a path. -/
structure Node where
  kind : FileKind
  data : List UInt8 := []
  /-- The size that is reported instead of the number of bytes. -/
  statedSize : Option Nat := none
  links : Nat := 1
  user : Text := "ftp"
  group : Text := "ftp"
  modified : DateTime
  /-- Names that are listed in the directory although nothing is there. -/
  ghosts : List Text := []
  faults : List NodeFault := []
  /-- Reading fails from this position on. -/
  readFailsAt : Option Nat := none

/-- A file that is open at a position. -/
structure OpenFile where
  handle : File
  path : Text
  position : Nat := 0

structure Disk where
  /-- The nodes in the order of their paths. -/
  nodes : List (Text × Node) := []
  lastHandle : UInt32 := 0
  openFiles : List OpenFile := []
  /-- The number of bytes that can still be written, if it is limited. -/
  budget : Option Nat := none
  /-- A call of read gives no more than this. -/
  readMax : Option Nat := none

/-- The order of code points, in which texts are also ordered by their bytes. -/
def textLe : Text → Text → Bool
  | [], _ => true
  | _ :: _, [] => false
  | a :: as, b :: bs => a < b || (a = b && textLe as bs)

/-- The names in order, with one more. -/
def insertName (names : List Text) (name : Text) : List Text :=
  let isBefore := fun other => textLe other name
  names.takeWhile isBefore ++ name :: names.dropWhile isBefore

/-- The name of `path` in `directory`, if it lies directly in it. -/
def nameIn? (directory path : Text) : Option Text :=
  match Text.after? (if directory = ['/'] then ['/'] else directory ++ ['/']) path with
  | some name => if name = [] ∨ '/' ∈ name then none else some name
  | none => none

/-- The directory that a path lies in, if it has a slash. -/
def parent? (path : Text) : Option Text :=
  match path.reverse.dropWhile (· ≠ '/') with
  | [] => none
  | [_] => some ['/']
  | _ :: rest => some rest.reverse

namespace Disk

variable (disk : Disk)

def node? (path : Text) : Option Node :=
  (disk.nodes.find? fun entry => entry.1 = path).map Prod.snd

def remove (path : Text) : Disk :=
  { disk with nodes := disk.nodes.filter fun entry => entry.1 ≠ path }

/-- Puts a node at the path, in place of what is there. -/
def put (path : Text) (node : Node) : Disk :=
  let others := disk.nodes.filter fun entry => entry.1 ≠ path
  let isBefore := fun entry : Text × Node => textLe entry.1 path
  { disk with nodes := others.takeWhile isBefore ++ (path, node) :: others.dropWhile isBefore }

def isDir (path : Text) : Bool :=
  match disk.node? path with
  | some node => node.kind = .dir
  | none => false

/-- A node can be made at the path: it has a parent directory. -/
def hasParent (path : Text) : Bool :=
  match parent? path with
  | some directory => disk.isDir directory
  | none => false

/-- The names of the nodes in the directory, in order. -/
def names (directory : Text) : List Text :=
  disk.nodes.filterMap fun entry => nameIn? directory entry.1

/-- Opens the file at the path under the next handle. -/
def issue (path : Text) : Except IoError File × Disk :=
  let handle : File := ⟨disk.lastHandle + 1⟩
  (.ok handle,
    { disk with
      lastHandle := disk.lastHandle + 1
      openFiles := disk.openFiles ++ [{ handle, path }] })

def openFile (path : Text) (mode : OpenMode) (now : DateTime) : Except IoError File × Disk :=
  match disk.node? path with
  | some node =>
    if node.faults.contains .open || node.kind ≠ .file then (.error (failure .other), disk)
    else
      match mode with
      | .read => disk.issue path
      | .write =>
        (disk.put path { node with data := [], statedSize := none, modified := now }).issue path
  | none =>
    match mode with
    | .read => (.error (failure .other), disk)
    | .write =>
      if disk.hasParent path then (disk.put path { kind := .file, modified := now }).issue path
      else (.error (failure .other), disk)

def openFile? (handle : File) : Option OpenFile :=
  disk.openFiles.find? fun file => file.handle = handle

def read (handle : File) (limit : Nat) : Except IoError (Chunk limit) × Disk :=
  match disk.openFile? handle with
  | none => (.error (failure .other), disk)
  | some file =>
    match disk.node? file.path with
    | none => (.error (failure .other), disk)
    | some node =>
      if (node.readFailsAt.map fun position => decide (position ≤ file.position)) = some true then
        (.error (failure .other), disk)
      else
        let left := node.data.drop file.position
        let chunk := Chunk.take limit (left.take (disk.readMax.getD limit))
        let moved := { file with position := file.position + chunk.bytes.length }
        (.ok chunk,
          { disk with
            openFiles :=
              disk.openFiles.map fun other => if other.handle = handle then moved else other })

def write (handle : File) (bytes : List UInt8) : Except IoError Unit × Disk :=
  match disk.openFile? handle with
  | none => (.error (failure .other), disk)
  | some file =>
    if (disk.budget.map fun budget => decide (budget < bytes.length)) = some true then
      (.error (failure .other), disk)
    else
      let disk := { disk with budget := disk.budget.map (· - bytes.length) }
      match disk.node? file.path with
      | none => (.error (failure .other), disk)
      | some node => (.ok (), disk.put file.path { node with data := node.data ++ bytes })

def close (handle : File) : Disk :=
  { disk with openFiles := disk.openFiles.filter fun file => file.handle ≠ handle }

def stat (path : Text) : Except IoError FileInfo :=
  match disk.node? path with
  | none => .error (failure .other)
  | some node =>
    if node.faults.contains .stat then .error (failure .other)
    else
      .ok ⟨node.kind, node.statedSize.getD node.data.length, node.links, node.user, node.group,
        node.modified⟩

def readDir (path : Text) : Except IoError (List Text) :=
  match disk.node? path with
  | none => .error (failure .other)
  | some node =>
    if node.kind ≠ .dir || node.faults.contains .readDir then .error (failure .other)
    else .ok (node.ghosts.foldl insertName (disk.names path))

def removeFile (path : Text) : Except IoError Unit × Disk :=
  match disk.node? path with
  | none => (.error (failure .other), disk)
  | some node =>
    if node.kind = .dir || node.faults.contains .remove then (.error (failure .other), disk)
    else (.ok (), disk.remove path)

def makeDir (path : Text) (now : DateTime) : Except IoError Unit × Disk :=
  if (disk.node? path).isSome || !disk.hasParent path then (.error (failure .other), disk)
  else (.ok (), disk.put path { kind := .dir, modified := now })

def removeDir (path : Text) : Except IoError Unit × Disk :=
  match disk.node? path with
  | none => (.error (failure .other), disk)
  | some node =>
    if node.kind ≠ .dir || !(disk.names path).isEmpty || node.faults.contains .remove then
      (.error (failure .other), disk)
    else (.ok (), disk.remove path)

end Disk

end Ftp.Simulation
