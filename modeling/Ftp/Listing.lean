import Ftp.Listing.Line
import Ftp.Setting

/-!
# Listings

A listing streams one line for each entry of a directory over a data connection. Hidden entries are
left out, and so are those about which nothing can be found out.
-/

namespace Ftp.Listing

/-- Names that begin with a dot are hidden. -/
def isHidden (name : Text) : Bool :=
  name.head? = some '.'

/-- The facts about an entry of the working directory. Its name is taken as it stands. -/
def entryInfo (setting : Setting) (session : Session) (name : Text) : Program (Option FileInfo) :=
  match setting.resolve session name false with
  | .error _ => return none
  | .ok path => do
    match ← .request (.stat path) with
    | .ok info => return some info
    | .error _ => return none

/-- Sends the lines of the entries and then the closing reply, where `listed` entries have been sent
already and `failed` ones were left out. -/
def sendEntries (setting : Setting) (session : Session) (socket : Socket) (format : ListFormat)
    (now : DateTime) : (names : List Text) → (listed failed : Nat) → Program Unit
  | [], listed, failed =>
    if 0 < failed ∧ listed = 0 then session.say 451 "Error reading directory entries."
    else session.say 226 "Directory send OK."
  | name :: names, listed, failed => do
    match ← entryInfo setting session name with
    | none => sendEntries setting session socket format now names listed (failed + 1)
    | some info =>
      let bytes := Utf8.encode (line format name info now ++ Reply.lineEnd)
      match ← .request (.send socket bytes) with
      | .error _ => session.say 426 "Data connection error."
      | .ok () => sendEntries setting session socket format now names (listed + 1) failed

/-- Sends the listing of a directory. Nothing but an error is said of a directory that cannot be
read. -/
def send (setting : Setting) (session : Session) (socket : Socket) (directory : Text)
    (format : ListFormat) : Program Unit := do
  match ← .request (.readDir directory) with
  | .error _ => session.say 451 "Cannot open directory."
  | .ok names =>
    session.say 150 "Here comes the directory listing."
    let now ← .request .localTime
    sendEntries setting session socket format now (names.filter (!isHidden ·)) 0 0

end Ftp.Listing
