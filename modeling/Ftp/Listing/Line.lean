import Ftp.FileInfo

/-!
# Lines of a listing

The three ways to write one directory entry: a long line for people, the bare name, and a line of
facts for programs.
-/

namespace Ftp

/-- How a directory is listed. -/
inductive ListFormat where
  | long
  | names
  | facts
  deriving DecidableEq, Repr

namespace Listing

def kindLetter : FileKind → Char
  | .file => '-'
  | .dir => 'd'
  | .link => 'l'

/-- The time of day for a file modified in the current year, the year for any other. -/
def dateColumn (modified now : DateTime) : Text :=
  if modified.year = now.year then modified.monthDay ++ ' ' :: modified.clock
  else modified.monthDay ++ ' ' :: Text.padLeft 5 (Decimal.signed modified.year)

/-- Kind and mode, links, owner, group, size, date and name. A column that outgrows its width pushes
the rest of the line to the right. -/
def longLine (name : Text) (info : FileInfo) (now : DateTime) : Text :=
  kindLetter info.kind :: "rwxrwxrwx ".toList ++ Text.padLeft 4 (Decimal.digits info.links) ++
    ' ' :: Text.padRight 8 info.user ++ ' ' :: Text.padRight 8 info.group ++
    ' ' :: Text.padLeft 8 (Decimal.digits info.size) ++ ' ' :: dateColumn info.modified now ++
    ' ' :: name

/-- The parent directory has a kind of its own. -/
def factKind (name : Text) (kind : FileKind) : Text :=
  if name = ['.', '.'] then "pdir"
  else
    match kind with
    | .file => "file"
    | .dir => "dir"
    | .link => "OS.unix=slink"

/-- Facts, each with a semicolon after it, then a space and the name. -/
def factLine (name : Text) (info : FileInfo) : Text :=
  "Type=".toList ++ factKind name info.kind ++ ";Size=".toList ++ Decimal.digits info.size ++
    ";Modify=".toList ++ info.modified.stamp ++ ";Perm=r; ".toList ++ name

/-- The line of an entry, without its end. -/
def line (format : ListFormat) (name : Text) (info : FileInfo) (now : DateTime) : Text :=
  match format with
  | .long => longLine name info now
  | .names => name
  | .facts => factLine name info

end Listing

end Ftp
