import Ftp.Text

/-!
# Paths

A client names files by virtual paths under the root of its account. A virtual path is read as a
list of segments by a left fold on a stack: empty segments vanish, `.` stays, and `..` leaves the
last segment but never the root. The segments are then written under the root (`resolve`) or under
`/` (`virtual`). `isName_of_mem_segments` says that what is left after that are names of directory
entries.
-/

namespace Ftp.Path

/-- The path starts at the root: it begins with a slash, or it is the working directory itself. -/
def isRooted (workingDir path : Text) : Bool :=
  path.head? = some '/' || path = workingDir

/-- Takes one segment onto the stack, whose top comes first. Without `normalize` the segments `.`
and `..` are names like any other. -/
def enter (normalize : Bool) (stack : List Text) (segment : Text) : List Text :=
  if segment = [] then stack
  else if normalize ∧ segment = ['.'] then stack
  else if normalize ∧ segment = ['.', '.'] then stack.tail
  else segment :: stack

/-- Where the path starts: at the root, or in the working directory. -/
def base (workingDir path : Text) : Text :=
  if isRooted workingDir path then [] else workingDir

/-- The segments from the root to the file that `path` names in `workingDir`. -/
def segments (workingDir path : Text) (normalize : Bool) : List Text :=
  let pieces := Text.split '/' (base workingDir path) ++ Text.split '/' path
  (pieces.foldl (enter normalize) []).reverse

/-- A segment that can name the entry of a directory. With `normalize` the names of the directory
itself and of its parent are none. -/
def IsName (normalize : Bool) (segment : Text) : Prop :=
  segment ≠ [] ∧ '/' ∉ segment ∧ (normalize = true → segment ≠ ['.'] ∧ segment ≠ ['.', '.'])

theorem isName_of_mem_enter {normalize : Bool} {stack : List Text} {segment name : Text}
    (hs : '/' ∉ segment) (hstack : ∀ name ∈ stack, IsName normalize name)
    (h : name ∈ enter normalize stack segment) : IsName normalize name := by
  simp only [enter] at h
  split at h
  · exact hstack name h
  split at h
  · exact hstack name h
  split at h
  · exact hstack name (List.mem_of_mem_tail h)
  · rcases List.mem_cons.1 h with rfl | h
    · exact ⟨by assumption, hs, by grind⟩
    · exact hstack name h

theorem isName_of_mem_foldl {normalize : Bool} {pieces stack : List Text} {name : Text}
    (hp : ∀ piece ∈ pieces, '/' ∉ piece) (hstack : ∀ name ∈ stack, IsName normalize name)
    (h : name ∈ pieces.foldl (enter normalize) stack) : IsName normalize name := by
  induction pieces generalizing stack with
  | nil => exact hstack name h
  | cons piece pieces ih =>
    exact ih (fun piece hm => hp piece (List.mem_cons_of_mem _ hm))
      (fun name hm => isName_of_mem_enter (hp piece List.mem_cons_self) hstack hm) h

/-- Segments are never empty and hold no slash, and once they are normalized they never lead
upwards. -/
theorem isName_of_mem_segments {workingDir path name : Text} {normalize : Bool}
    (h : name ∈ segments workingDir path normalize) : IsName normalize name := by
  refine isName_of_mem_foldl (fun piece hp => ?_) (by simp) (List.mem_reverse.1 h)
  rcases List.mem_append.1 hp with hp | hp <;> exact Text.not_mem_of_mem_split hp

/-- Each segment after a slash. -/
def slashed (segments : List Text) : Text :=
  segments.flatMap ('/' :: ·)

/-- The segments under `root`, of which trailing slashes do not count. -/
def under (root : Text) (segments : List Text) : Text :=
  match Text.dropEnd (· = '/') root ++ slashed segments with
  | [] => ['/']
  | path => path

/-- The server path of the file that `path` names in `workingDir`. -/
def resolve (root workingDir path : Text) (normalize : Bool) : Text :=
  under root (segments workingDir path normalize)

/-- The segments as an absolute virtual path. -/
def absolute (segments : List Text) : Text :=
  '/' :: Text.join '/' segments

/-- The virtual path of the file that `path` names in `workingDir`. -/
def virtual (workingDir path : Text) : Text :=
  absolute (segments workingDir path true)

end Ftp.Path
