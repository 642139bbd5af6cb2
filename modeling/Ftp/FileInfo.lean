import Ftp.Calendar

/-!
# Facts about a file

What the file system tells about a path.
-/

namespace Ftp

inductive FileKind where
  | file
  | dir
  /-- Neither a regular file nor a directory. -/
  | link
  deriving DecidableEq, Repr

structure FileInfo where
  kind : FileKind
  size : Nat
  links : Nat
  user : Text
  group : Text
  /-- The local time of the last modification. -/
  modified : DateTime
  deriving DecidableEq, Repr

end Ftp
