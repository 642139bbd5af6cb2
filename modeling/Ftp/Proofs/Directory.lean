import Ftp.Proofs.Flow
import Ftp.Proofs.Navigation

/-!
# Listing a directory

A directory is read under its own path, and each of its entries is looked up under the name that the
directory gives it. That this is the path of the directory, a slash and the name is what makes a
listing complete: nothing that is shown is looked for anywhere else.

* `Path.resolve_entry`: where an entry is looked up;
* `exec_sendEntries`: which lines are sent, and where it may break off;
* `lists_of_reachable`: what a client gets that lists its working directory, over every history.
-/

namespace Ftp

open Program

/-! ## Entries of a directory -/

instance : DecidablePred IsEntryName := fun name =>
  inferInstanceAs (Decidable (name ≠ [] ∧ '/' ∉ name))

namespace Path

/-- The path of an entry of the directory. -/
def child (directory name : Text) : Text :=
  if directory = ['/'] then '/' :: name else directory ++ '/' :: name

theorem under_concat (root : Text) {names : List Text} (h : ∀ name ∈ names, IsName true name)
    (name : Text) : under root (names ++ [name]) = child (under root names) name := by
  have hslashed : slashed (names ++ [name]) = slashed names ++ '/' :: name := by
    simp [slashed]
  unfold under
  rw [hslashed, ← List.append_assoc]
  cases hpath : Text.dropEnd (· = '/') root ++ slashed names with
  | nil => rfl
  | cons c path =>
    -- Only a root that is `/` itself leads to this path, and nothing is written for that.
    have hne : c :: path ≠ ['/'] := by
      intro heq
      rw [heq] at hpath
      rcases List.append_eq_singleton_iff.1 hpath with ⟨-, hnames⟩ | ⟨hroot, -⟩
      · cases names with
        | nil => cases hnames
        | cons first names =>
          have hfirst := (h first List.mem_cons_self).1
          simp [slashed, hfirst] at hnames
      · exact getLast?_dropEnd_ne root (by rw [hroot]; rfl)
    simp only [child, if_neg hne]
    rfl

/-- An entry of the working directory is looked up in the directory that is read. -/
theorem resolve_entry {workingDir name : Text} (root : Text) (hdir : IsWorkingDir workingDir)
    (hname : IsEntryName name) :
    resolve root workingDir name false = child (resolve root workingDir workingDir true) name := by
  obtain ⟨names, hnames, rfl⟩ := hdir
  have hself : segments ('/' :: Text.join '/' names) ('/' :: Text.join '/' names) true = names :=
    segments_absolute hnames _
  rw [resolve, segments_of_entry hnames hname, under_concat root hnames, resolve, hself]

end Path

/-- Where the path of the working directory is not too long, that of an entry may still be. -/
theorem Setting.resolve_entry {setting : Setting} {session : Session} {directory name : Text}
    (hdir : IsWorkingDir session.workingDir)
    (hresolve : setting.resolve session session.workingDir true = .ok directory)
    (hname : IsEntryName name) :
    setting.resolve session name false =
      if setting.config.maxPathLength.toNat < Utf8.length (Path.child directory name) then
        .error (.pathTooLong setting.config.maxPathLength.toNat)
      else .ok (Path.child directory name) := by
  unfold Setting.resolve at hresolve ⊢
  cases hroot : setting.root session with
  | error error =>
    rw [hroot] at hresolve
    cases hresolve
  | ok root =>
    simp only [hroot] at hresolve ⊢
    split at hresolve
    · cases hresolve
    · rw [Path.resolve_entry root hdir hname, Except.ok.inj hresolve]

namespace Listing

/-- What the file system says about an entry. -/
structure Look where
  name : Text
  answer : Except IoError FileInfo

/-- The entry, if it is there. -/
def Look.found? (look : Look) : Option (Text × FileInfo) :=
  match look.answer with
  | .ok info => some (look.name, info)
  | .error _ => none

/-- The path that is looked at, and what is said about it. -/
def Look.seen (directory : Text) (look : Look) : Text × Except IoError FileInfo :=
  (Path.child directory look.name, look.answer)

/-- The entries that are there. -/
def found (looks : List Look) : List (Text × FileInfo) :=
  looks.filterMap Look.found?

/-- The line of an entry with its end, as it is sent. -/
def sentLine (format : ListFormat) (now : DateTime) (entry : Text × FileInfo) : List UInt8 :=
  Utf8.encode (line format entry.1 entry.2 now ++ Reply.lineEnd)

/-- The names of a directory that are not hidden. -/
def shown (names : List Text) : List Text :=
  names.filter (!isHidden ·)

/-- Those of the names that make no path too long. -/
def within (limit : Nat) (directory : Text) (names : List Text) : List Text :=
  names.filter fun name => Utf8.length (Path.child directory name) ≤ limit

/-- The reply after the last line. -/
def closing (listed failed : Nat) : Reply :=
  if 0 < failed ∧ listed = 0 then .line 451 "Error reading directory entries."
  else .line 226 "Directory send OK."

section Entries

variable (control socket : Socket) (limit : Nat) (directory : Text) (format : ListFormat)
  (now : DateTime)

/-- The entry is looked at, and if it is there, its line is sent. -/
def Look.events (look : Look) : List Event :=
  ⟨.stat (Path.child directory look.name), look.answer⟩ ::
    look.found?.toList.map fun entry => ⟨.send socket (sentLine format now entry), .ok ()⟩

/-- The runs over entries of a directory, where so many have been listed already and so many have
failed. -/
inductive EntriesRun (names : List Text) (listed failed : Nat) : List Event → Prop
  | complete (looks : List Look) (hnames : looks.map Look.name = within limit directory names) :
    EntriesRun names listed failed (looks.flatMap (Look.events socket directory format now) ++
      [⟨.reply control (closing (listed + (found looks).length)
        (failed + (names.length - (found looks).length))), ()⟩])
  | broken (looks : List Look) (name : Text) (info : FileInfo) (rest : List Text) (cause : IoError)
    (hnames : looks.map Look.name ++ name :: rest = within limit directory names) :
    EntriesRun names listed failed (looks.flatMap (Look.events socket directory format now) ++
      [⟨.stat (Path.child directory name), .ok info⟩,
        ⟨.send socket (sentLine format now (name, info)), .error cause⟩,
        said control 426 "Data connection error."])

end Entries

section Entries

variable {control socket : Socket} {limit : Nat} {directory : Text} {format : ListFormat}
  {now : DateTime} {name : Text} {names : List Text} {listed failed : Nat} {events : List Event}

theorem length_found_le {looks : List Look}
    (hnames : looks.map Look.name = within limit directory names) :
    (found looks).length ≤ names.length :=
  calc (found looks).length ≤ looks.length := List.length_filterMap_le ..
    _ = (within limit directory names).length := by rw [← hnames, List.length_map]
    _ ≤ names.length := List.length_filter_le ..

theorem within_cons (hfits : Utf8.length (Path.child directory name) ≤ limit) :
    within limit directory (name :: names) = name :: within limit directory names := by
  simp [within, hfits]

/-- An entry whose path is too long is passed over. -/
theorem EntriesRun.skip (hlong : ¬Utf8.length (Path.child directory name) ≤ limit)
    (h : EntriesRun control socket limit directory format now names listed (failed + 1) events) :
    EntriesRun control socket limit directory format now (name :: names) listed failed events := by
  have hwithin : within limit directory (name :: names) = within limit directory names := by
    simp [within, hlong]
  cases h with
  | complete looks hnames =>
    have hcount : failed + 1 + (names.length - (found looks).length) =
        failed + ((name :: names).length - (found looks).length) := by
      have hle := length_found_le hnames
      rw [List.length_cons]
      omega
    rw [hcount]
    exact .complete looks (hnames.trans hwithin.symm)
  | broken looks name' info rest cause hnames =>
    exact .broken looks name' info rest cause (hnames.trans hwithin.symm)

/-- Any other is looked at, and counts as listed or as failed. -/
theorem EntriesRun.cons (look : Look)
    (hfits : Utf8.length (Path.child directory look.name) ≤ limit)
    (h : EntriesRun control socket limit directory format now names
      (listed + (found [look]).length) (failed + (1 - (found [look]).length)) events) :
    EntriesRun control socket limit directory format now (look.name :: names) listed failed
      (look.events socket directory format now ++ events) := by
  have hwithin : within limit directory (look.name :: names) =
      look.name :: within limit directory names := within_cons hfits
  cases h with
  | complete looks hnames =>
    have hfound : (found (look :: looks)).length =
        (found [look]).length + (found looks).length := by
      rw [← List.length_append, ← List.singleton_append, found, List.filterMap_append]
      rfl
    have hone : (found [look]).length ≤ 1 := List.length_filterMap_le ..
    have hle := length_found_le hnames
    have hlisted : listed + (found [look]).length + (found looks).length =
        listed + (found (look :: looks)).length := by omega
    have hfailed : failed + (1 - (found [look]).length) +
        (names.length - (found looks).length) =
          failed + ((look.name :: names).length - (found (look :: looks)).length) := by
      rw [List.length_cons]
      omega
    rw [hlisted, hfailed, ← List.append_assoc, ← List.flatMap_cons]
    exact .complete (look :: looks) (by rw [List.map_cons, hnames, hwithin])
  | broken looks name' info rest cause hnames =>
    rw [← List.append_assoc, ← List.flatMap_cons]
    exact .broken (look :: looks) name' info rest cause
      (by rw [List.map_cons, List.cons_append, hnames, hwithin])

end Entries

section Runs

variable {setting : Setting} {session : Session} {directory : Text} {socket : Socket}
  {format : ListFormat} {now : DateTime} {events : List Event}

theorem exec_entryInfo {name : Text} {info? : Option FileInfo}
    (hdir : IsWorkingDir session.workingDir)
    (hresolve : setting.resolve session session.workingDir true = .ok directory)
    (hname : IsEntryName name) (run : Exec (entryInfo setting session name) events info?) :
    if Utf8.length (Path.child directory name) ≤ setting.config.maxPathLength.toNat then
      ∃ answer, events = [⟨.stat (Path.child directory name), answer⟩] ∧ info? = answer.toOption
    else events = [] ∧ info? = none := by
  unfold entryInfo at run
  rw [setting.resolve_entry hdir hresolve hname] at run
  split
  · rename_i hle
    rw [if_neg (Nat.not_lt.2 hle)] at run
    obtain ⟨answer, _, rfl, hdone⟩ := exec_ask_iff.1 run
    refine ⟨answer, ?_⟩
    cases answer <;> obtain ⟨rfl, rfl⟩ := exec_done_iff.1 hdone <;> exact ⟨rfl, rfl⟩
  · rename_i hlt
    rw [if_pos (Nat.lt_of_not_le hlt)] at run
    exact exec_done_iff.1 run

/-- The entries are looked at one after another, until a line cannot be sent. -/
theorem exec_sendEntries (hdir : IsWorkingDir session.workingDir)
    (hresolve : setting.resolve session session.workingDir true = .ok directory)
    {names : List Text} (hentries : ∀ name ∈ names, IsEntryName name) {listed failed : Nat}
    (run : Exec (sendEntries setting session socket format now names listed failed) events ()) :
    EntriesRun session.control socket setting.config.maxPathLength.toNat directory format now names
      listed failed events := by
  induction names generalizing listed failed events with
  | nil =>
    have hclosing : sendEntries setting session socket format now [] listed failed =
        session.reply (closing listed failed) := by
      unfold sendEntries closing
      split <;> rfl
    rw [hclosing] at run
    obtain ⟨rfl, -⟩ := (plays_reply ..).eq_of_exec run
    exact .complete [] rfl
  | cons name names ih =>
    have hrest := fun other hmem => hentries other (List.mem_cons_of_mem _ hmem)
    unfold sendEntries at run
    obtain ⟨looked, info?, sent, rfl, hlook, hsend⟩ := Exec.bind_iff.1 run
    have hlooked := exec_entryInfo hdir hresolve (hentries name List.mem_cons_self) hlook
    split at hlooked
    · rename_i hfits
      obtain ⟨answer, rfl, rfl⟩ := hlooked
      cases answer with
      | error cause =>
        exact .cons ⟨name, .error cause⟩ hfits (ih hrest hsend)
      | ok info =>
        obtain ⟨answer, rest, rfl, hrest'⟩ := exec_ask_iff.1 hsend
        cases answer with
        | error cause =>
          obtain ⟨rfl, -⟩ := (plays_say ..).eq_of_exec hrest'
          exact .broken [] name info _ cause (within_cons hfits).symm
        | ok =>
          exact .cons ⟨name, .ok info⟩ hfits (ih hrest hrest')
    · rename_i hlong
      obtain ⟨rfl, rfl⟩ := hlooked
      exact (ih hrest hsend).skip hlong

end Runs

end Listing

/-! ## What a listing comes to -/

/-- The path that is looked at, and what the file system says about it. -/
def Event.look? : Event → Option (Text × Except IoError FileInfo)
  | ⟨.stat path, answer⟩ => some (path, answer)
  | _ => none

/-- The names that a directory is said to hold. -/
def Event.entries : Event → List Text
  | ⟨.readDir _, .ok names⟩ => names
  | _ => []

/-- The paths that are looked at in some events, with what the file system says about them. -/
def looksIn (events : List Event) : List (Text × Except IoError FileInfo) :=
  events.filterMap Event.look?

/-- The handles that are closed in some events. -/
def closedIn (events : List Event) : Multiset Handle :=
  (events.map fun event => event.request.closes).sum

namespace Listing

/-- How the listing of a directory goes on a data connection. -/
inductive Sends (control socket : Socket) (limit : Nat) (directory : Text) (format : ListFormat)
    (events : List Event) : Prop
  /-- The directory cannot be read, and nothing else is said or sent. -/
  | unreadable (cause : IoError) (read : ⟨.readDir directory, .error cause⟩ ∈ events)
    (looks : looksIn events = []) (offered : offeredTo (.socket socket) events = [])
    (replies : repliesIn events = [(control, .line 451 "Cannot open directory.")])
  /-- Each entry that is shown and whose path is not too long is looked at, in order, and the lines
  of those that are there are sent. -/
  | complete (names : List Text) (now : DateTime) (looks : List Look)
    (read : ⟨.readDir directory, .ok names⟩ ∈ events) (clock : ⟨.localTime, now⟩ ∈ events)
    (names_eq : looks.map Look.name = within limit directory (shown names))
    (looks_eq : looksIn events = looks.map (Look.seen directory))
    (given : givenTo (.socket socket) events = (found looks).flatMap (sentLine format now))
    (offered : offeredTo (.socket socket) events = (found looks).flatMap (sentLine format now))
    (replies : repliesIn events = [(control, .line 150 "Here comes the directory listing."),
      (control, if found looks = [] ∧ shown names ≠ [] then
        .line 451 "Error reading directory entries." else .line 226 "Directory send OK.")])
  /-- Or so it goes until a line cannot be sent. -/
  | broken (names : List Text) (now : DateTime) (looks : List Look) (name : Text) (info : FileInfo)
    (rest : List Text) (read : ⟨.readDir directory, .ok names⟩ ∈ events)
    (clock : ⟨.localTime, now⟩ ∈ events)
    (names_eq : looks.map Look.name ++ name :: rest = within limit directory (shown names))
    (looks_eq : looksIn events =
      looks.map (Look.seen directory) ++ [(Path.child directory name, .ok info)])
    (given : givenTo (.socket socket) events = (found looks).flatMap (sentLine format now))
    (offered : offeredTo (.socket socket) events =
      (found looks).flatMap (sentLine format now) ++ sentLine format now (name, info))
    (replies : repliesIn events = [(control, .line 150 "Here comes the directory listing."),
      (control, .line 426 "Data connection error.")])

section Observed

variable {control socket : Socket} {limit : Nat} {directory : Text} {format : ListFormat}
  {now : DateTime} {names : List Text} {events : List Event}

@[simp] theorem looksIn_append (events more : List Event) :
    looksIn (events ++ more) = looksIn events ++ looksIn more :=
  List.filterMap_append

@[simp] theorem closedIn_append (events more : List Event) :
    closedIn (events ++ more) = closedIn events + closedIn more := by
  simp [closedIn]

theorem givenTo_of_offeredTo {handle : Handle} (h : offeredTo handle events = []) :
    givenTo handle events = [] :=
  List.flatMap_eq_nil_iff.2 fun event hmem =>
    given_of_offered (List.flatMap_eq_nil_iff.1 h event hmem)

theorem closing_eq {looks : List Look} (hle : (found looks).length ≤ names.length) :
    closing (0 + (found looks).length) (0 + (names.length - (found looks).length)) =
      if found looks = [] ∧ names ≠ [] then .line 451 "Error reading directory entries."
      else .line 226 "Directory send OK." := by
  unfold closing
  refine if_congr ?_ rfl rfl
  rw [← List.length_eq_zero_iff, ← List.length_pos_iff_ne_nil]
  omega

section Looks

variable (looks : List Look)

/-- What is seen of the events is seen of one look after another. -/
theorem flatMap_events {β : Type} {see : List Event → List β} (nil : see [] = [])
    (append : ∀ events more, see (events ++ more) = see events ++ see more) :
    see (looks.flatMap (Look.events socket directory format now)) =
      looks.flatMap fun look => see (look.events socket directory format now) := by
  induction looks with
  | nil => exact nil
  | cons look looks ih => rw [List.flatMap_cons, List.flatMap_cons, append, ih]

theorem looksIn_events : looksIn (looks.flatMap (Look.events socket directory format now)) =
    looks.map (Look.seen directory) := by
  have hlook : ∀ look : Look, looksIn (look.events socket directory format now) =
      [look.seen directory] := by
    intro look
    unfold Look.events
    cases look.found? <;> rfl
  rw [flatMap_events looks rfl looksIn_append, List.map_eq_flatMap]
  simp only [hlook]

theorem flatMap_found (line : Text × FileInfo → List UInt8) :
    (found looks).flatMap line = looks.flatMap fun look => look.found?.toList.flatMap line := by
  rw [found, List.filterMap_eq_flatMap_toList, List.flatMap_assoc]

theorem offeredTo_events : offeredTo (.socket socket)
    (looks.flatMap (Look.events socket directory format now)) =
      (found looks).flatMap (sentLine format now) := by
  have hlook : ∀ look : Look, offeredTo (.socket socket) (look.events socket directory format now) =
      look.found?.toList.flatMap (sentLine format now) := by
    intro look
    unfold Look.events
    cases look.found? <;> simp [Request.offered]
  rw [flatMap_events looks rfl offeredTo_append, flatMap_found]
  simp only [hlook]

theorem givenTo_events : givenTo (.socket socket)
    (looks.flatMap (Look.events socket directory format now)) =
      (found looks).flatMap (sentLine format now) := by
  have hlook : ∀ look : Look, givenTo (.socket socket) (look.events socket directory format now) =
      look.found?.toList.flatMap (sentLine format now) := by
    intro look
    have hstat : Event.given (.socket socket)
        ⟨.stat (Path.child directory look.name), look.answer⟩ = [] := given_of_offered rfl
    unfold Look.events
    cases look.found? <;> simp [hstat]
  rw [flatMap_events looks rfl givenTo_append, flatMap_found]
  simp only [hlook]

theorem repliesIn_events :
    repliesIn (looks.flatMap (Look.events socket directory format now)) = [] := by
  rw [flatMap_events looks rfl repliesIn_append, List.flatMap_eq_nil_iff]
  intro look _
  unfold Look.events
  cases look.found? <;> rfl

theorem closedIn_events :
    closedIn (looks.flatMap (Look.events socket directory format now)) = 0 := by
  induction looks with
  | nil => rfl
  | cons look looks ih =>
    rw [List.flatMap_cons, closedIn_append, ih]
    unfold Look.events
    cases look.found? <;> rfl

end Looks

/-- What is done once the directory has been read. -/
theorem sends_of_entriesRun {lines : List Event}
    (h : EntriesRun control socket limit directory format now (shown names) 0 0 lines) :
    Sends control socket limit directory format
        ([⟨.readDir directory, .ok names⟩, said control 150 "Here comes the directory listing.",
          ⟨.localTime, now⟩] ++ lines) ∧
      closedIn lines = 0 := by
  cases h with
  | complete looks hlooks =>
    rw [closing_eq (length_found_le hlooks)]
    refine ⟨.complete names now looks (by simp) (by simp) hlooks ?_ ?_ ?_ ?_, ?_⟩
    · rw [looksIn_append, looksIn_append, looksIn_events]
      exact List.append_nil _
    · rw [givenTo_append, givenTo_append, givenTo_events]
      exact List.append_nil _
    · rw [offeredTo_append, offeredTo_append, offeredTo_events]
      exact List.append_nil _
    · rw [repliesIn_append, repliesIn_append, repliesIn_events]
      rfl
    · rw [closedIn_append, closedIn_events]
      rfl
  | broken looks name info rest cause hlooks =>
    refine ⟨.broken names now looks name info rest (by simp) (by simp) hlooks ?_ ?_ ?_ ?_, ?_⟩
    · rw [looksIn_append, looksIn_append, looksIn_events]
      rfl
    · rw [givenTo_append, givenTo_append, givenTo_events]
      exact List.append_nil _
    · rw [offeredTo_append, offeredTo_append, offeredTo_events]
      simp [Request.offered, said]
    · rw [repliesIn_append, repliesIn_append, repliesIn_events]
      rfl
    · rw [closedIn_append, closedIn_events]
      rfl

theorem exec_send {setting : Setting} {session : Session} (hdir : IsWorkingDir session.workingDir)
    (hresolve : setting.resolve session session.workingDir true = .ok directory)
    (hentries : ∀ event ∈ events, ∀ name ∈ event.entries, IsEntryName name)
    (run : Exec (send setting session socket directory format) events ()) :
    Sends session.control socket setting.config.maxPathLength.toNat directory format events ∧
      closedIn events = 0 := by
  obtain ⟨answer, rest, rfl, hsend⟩ := exec_ask_iff.1 run
  cases answer with
  | error cause =>
    obtain ⟨rfl, -⟩ := (plays_say ..).eq_of_exec hsend
    exact ⟨.unreadable cause List.mem_cons_self rfl rfl rfl, rfl⟩
  | ok names =>
    have hnames : ∀ name ∈ shown names, IsEntryName name := fun name hmem =>
      hentries _ List.mem_cons_self name (List.mem_of_mem_filter hmem)
    obtain ⟨rest, rfl, hrest⟩ := (plays_say ..).of_bind hsend
    obtain ⟨now, lines, rfl, hlines⟩ := exec_ask_iff.1 hrest
    obtain ⟨hsends, hclosed⟩ := sends_of_entriesRun (exec_sendEntries hdir hresolve hnames hlines)
    refine ⟨hsends, ?_⟩
    have hopening : closedIn [⟨.readDir directory, .ok names⟩,
        said session.control 150 "Here comes the directory listing.", ⟨.localTime, now⟩] = 0 := rfl
    exact (closedIn_append _ lines).trans (by rw [hopening, hclosed, zero_add])

/-- Nothing is looked at, said, or offered to the connection. -/
structure Aside (socket : Socket) (events : List Event) : Prop where
  looks : looksIn events = []
  offered : offeredTo (.socket socket) events = []
  replies : repliesIn events = []

/-- What comes before a listing and after it does not matter to it. -/
theorem Sends.frame (h : Sends control socket limit directory format events)
    {before after : List Event} (hbefore : Aside socket before) (hafter : Aside socket after) :
    Sends control socket limit directory format (before ++ events ++ after) := by
  have hmem : ∀ event ∈ events, event ∈ before ++ events ++ after := fun event hmem =>
    List.mem_append_left _ (List.mem_append_right _ hmem)
  have hlooks : looksIn (before ++ events ++ after) = looksIn events := by
    simp [hbefore.looks, hafter.looks]
  have hoffered : offeredTo (.socket socket) (before ++ events ++ after) =
      offeredTo (.socket socket) events := by
    simp [hbefore.offered, hafter.offered]
  have hgiven : givenTo (.socket socket) (before ++ events ++ after) =
      givenTo (.socket socket) events := by
    simp [givenTo_of_offeredTo hbefore.offered, givenTo_of_offeredTo hafter.offered]
  have hreplies : repliesIn (before ++ events ++ after) = repliesIn events := by
    simp [hbefore.replies, hafter.replies]
  cases h with
  | unreadable cause read looks offered replies =>
    exact .unreadable cause (hmem _ read) (hlooks.trans looks) (hoffered.trans offered)
      (hreplies.trans replies)
  | complete names now looks read clock names_eq looks_eq given offered replies =>
    exact .complete names now looks (hmem _ read) (hmem _ clock) names_eq (hlooks.trans looks_eq)
      (hgiven.trans given) (hoffered.trans offered) (hreplies.trans replies)
  | broken names now looks name info rest read clock names_eq looks_eq given offered replies =>
    exact .broken names now looks name info rest (hmem _ read) (hmem _ clock) names_eq
      (hlooks.trans looks_eq) (hgiven.trans given) (hoffered.trans offered)
      (hreplies.trans replies)

end Observed

theorem aside_of_establishRun {wait : Nat} {client : IPv4} {target : Target} {events : List Event}
    {result : Except TransferError Socket} (h : EstablishRun wait client target events result)
    (socket : Socket) : Aside socket events := by
  cases h <;> exact ⟨rfl, rfl, rfl⟩

theorem closedIn_of_establishRun {wait : Nat} {client : IPv4} {target : Target}
    {events : List Event} {socket : Socket}
    (h : EstablishRun wait client target events (.ok socket)) : closedIn events = 0 := by
  cases h <;> rfl

/-- What comes of a command that lists the working directory. -/
inductive Listed (setting : Setting) (session : Session) (format : ListFormat) (status : Status)
    (events : List Event) : Prop
  /-- The path of the directory is too long. -/
  | misplaced (error : PathError)
    (resolve : setting.resolve session session.workingDir true = .error error)
    (replies : repliesIn events = [(session.control, .line 550 "Invalid path.")])
  /-- There is no data connection. -/
  | unconnected (error : TransferError) (establishing : List Event)
    (begins : establishing <+: events)
    (establish : EstablishRun setting.config.connectWait session.remote.ip session.target
      establishing (.error error))
    (replies : repliesIn events =
      [(session.control, .line error.replyCode "Cannot open data connection.")])
  /-- The directory is listed, and the data connection is closed, once. -/
  | connected (directory : Text) (socket : Socket) (establishing : List Event)
    (begins : establishing <+: events)
    (resolve : setting.resolve session session.workingDir true = .ok directory)
    (establish : EstablishRun setting.config.connectWait session.remote.ip session.target
      establishing (.ok socket))
    (sends : Sends session.control socket setting.config.maxPathLength.toNat directory format
      events)
    (closed : closedIn events = {.socket socket}) (success : status = .success)

section Commands

variable {setting : Setting} {session : Session} {format : ListFormat} {events : List Event}
  {result : Status × Session}

/-- After a listing the clock may be looked at. -/
theorem Listed.concat {status : Status} (h : Listed setting session format status events)
    (now : Int) : Listed setting session format status (events ++ [⟨.unixTime, now⟩]) := by
  have hreplies : repliesIn (events ++ [⟨.unixTime, now⟩]) = repliesIn events := by
    rw [repliesIn_append]
    exact List.append_nil _
  cases h with
  | misplaced error resolve replies => exact .misplaced error resolve (hreplies.trans replies)
  | unconnected error establishing begins establish replies =>
    exact .unconnected error establishing (begins.trans (List.prefix_append ..)) establish
      (hreplies.trans replies)
  | connected directory socket establishing begins resolve establish sends closed success =>
    refine .connected directory socket establishing (begins.trans (List.prefix_append ..)) resolve
      establish ?_ ?_ success
    · have hbefore : Aside socket [] := ⟨rfl, rfl, rfl⟩
      exact sends.frame hbefore ⟨rfl, rfl, rfl⟩
    · rw [closedIn_append, closed]
      rfl

theorem exec_listing (hdir : IsWorkingDir session.workingDir)
    (hentries : ∀ event ∈ events, ∀ name ∈ event.entries, IsEntryName name)
    (run : Exec (Action.listing setting session format) events result) :
    result.2 = session ∧ Listed setting session format result.1 events := by
  unfold Action.listing Setting.withPath at run
  cases hresolve : setting.resolve session session.workingDir true with
  | error error =>
    rw [hresolve] at run
    obtain ⟨rfl, rfl⟩ := (plays_fail ..).eq_of_exec run
    exact ⟨rfl, .misplaced error hresolve rfl⟩
  | ok directory =>
    rw [hresolve] at run
    obtain ⟨establishing, connection, rest, rfl, hestablish, hrest⟩ := Exec.bind_iff.1 run
    have hestablish := exec_establish hestablish
    cases connection with
    | error error =>
      obtain ⟨rfl, rfl⟩ := (plays_fail ..).eq_of_exec hrest
      refine ⟨rfl, .unconnected error establishing (List.prefix_append ..) hestablish ?_⟩
      rw [repliesIn_append, (aside_of_establishRun hestablish ⟨0⟩).replies]
      rfl
    | ok socket =>
      obtain ⟨sending, _, closing, rfl, hsend, hclose⟩ := Exec.bind_iff.1 hrest
      obtain ⟨_, _, rfl, hdone⟩ := exec_ask_iff.1 hclose
      obtain ⟨rfl, rfl⟩ := exec_done_iff.1 hdone
      have haside := aside_of_establishRun hestablish socket
      obtain ⟨hsends, hclosed⟩ := exec_send hdir hresolve (fun event hmem =>
        hentries event (List.mem_append_right _ (List.mem_append_left _ hmem))) hsend
      refine ⟨rfl, .connected directory socket establishing (List.prefix_append ..) hresolve
        hestablish ?_ ?_ rfl⟩
      · rw [← List.append_assoc]
        exact hsends.frame haside ⟨rfl, rfl, rfl⟩
      · rw [closedIn_append, closedIn_append, hclosed, closedIn_of_establishRun hestablish]
        rfl

end Commands

end Listing

/-! ## Over every history -/

/-- The form of the listing that the command makes, if it makes one. -/
def Command.listFormat? : Command → Option ListFormat
  | .list => some .long
  | .nlst => some .names
  | .mlsd => some .facts
  | _ => none

theorem Command.run_of_listFormat? {command : Command} {format : ListFormat}
    (h : command.listFormat? = some format) (setting : Setting) (session : Session)
    (argument : Text) :
    command.run setting session argument = Action.listing setting session format := by
  cases command <;> cases h <;> rfl

/-- What a line with a command that lists the working directory comes to. -/
structure Listing.Lists (setting : Setting) (session : Session) (format : ListFormat)
    (events : List Event) (result : Status × Session) : Prop where
  listed : Listed setting session format result.1 events
  session_eq : result.2 = { session with lastCommand := result.2.lastCommand }

/-- In every session of a server whose directories hold nothing but names, whatever has happened
before. -/
theorem lists_of_reachable {history : List Entry} {server : Server} (h : Reachable history server)
    {slot : Nat} {session : Session} (get : server.sessions.get? slot = some session)
    {command : Command} {format : ListFormat} (hformat : command.listFormat? = some format)
    {input : LineBuffer} {raw : Text}
    (find : Command.find? (Command.upperVerb raw) server.config.extensions = some command)
    (verdict : Dispatch.verdict server.setting { session with input } command = .run)
    {events : List Event} {result : Status × Session}
    (run : Exec (Dispatch.dispatch server.setting { session with input } raw) events result)
    (hentries : ∀ event ∈ events, ∀ name ∈ event.entries, IsEntryName name) :
    Listing.Lists server.setting { session with input } format events result := by
  have hdir : IsWorkingDir session.workingDir := isWorkingDir_of_reachable h get
  replace hdir : IsWorkingDir ({ session with input } : Session).workingDir := hdir
  cases exec_dispatch run with
  | unknown hfind => cases find.symm.trans hfind
  | notLoggedIn hfind hverdict | denied hfind hverdict | ignored hfind hverdict =>
    obtain rfl := Option.some.inj (find.symm.trans hfind)
    cases verdict.symm.trans hverdict
  | @run _ ran status session' hfind _ hrun now =>
    obtain rfl := Option.some.inj (find.symm.trans hfind)
    rw [Command.run_of_listFormat? hformat] at hrun
    obtain ⟨hsame, hlisted⟩ := Listing.exec_listing hdir
      (fun event hmem => hentries event (List.mem_append_left _ hmem)) hrun
    obtain rfl : session' = { session with input } := hsame
    exact ⟨hlisted.concat now, rfl⟩

/-- A directory with a hidden file, a file and a directory. -/
def publicDisk : Simulation.Disk where
  nodes := [("/srv".toList, { kind := .dir, modified := .ofUnix 0 }),
    ("/srv/.key".toList, { kind := .file, modified := .ofUnix 0 }),
    ("/srv/a".toList, { kind := .file, modified := .ofUnix 0 }),
    ("/srv/pub".toList, { kind := .dir, modified := .ofUnix 0 })]

/-- The server of a client that has logged in there and named a port. -/
def visitedPublic : Server :=
  visited { name := "ada", password := [], root := "/srv/", rights := .all } publicDisk
    "USER ada\r\nPASS x\r\nPORT 127,0,0,1,19,137\r\n".toList 3

/-- What happens when the client asks for the names of the files. -/
def namesOfPublic (session : Session) : List Event × (Status × Session) × Simulation.World :=
  (Dispatch.dispatch visitedPublic.setting session "nlst".toList).trace Simulation.World.answer
    { clock := 7, disk := publicDisk }

/-- It gets two lines. -/
theorem lists_of_reachable_public :
    (∃ history, Reachable history visitedPublic) ∧
      ∃ session events result, visitedPublic.sessions.get? 0 = some session ∧
        Exec (Dispatch.dispatch visitedPublic.setting session "nlst".toList) events result ∧
        (∃ socket, givenTo (.socket socket) events = Utf8.encode "a\r\npub\r\n".toList) ∧
        (repliesIn events).map (fun reply => reply.2.code) = [150, 226] ∧
        Listing.Lists visitedPublic.setting session .names events result := by
  obtain ⟨history, hreachable⟩ : ∃ history, Reachable history visitedPublic :=
    exists_reachable_visited _ _ _ _
  obtain ⟨session, hsession⟩ : ∃ session, visitedPublic.sessions.get? 0 = some session :=
    Option.isSome_iff_exists.1 (by decide +kernel)
  have hoften : ∀ session ∈ visitedPublic.sessions.get? 0,
      Dispatch.verdict visitedPublic.setting session .nlst = .run ∧
        (∀ event ∈ (namesOfPublic session).1, ∀ name ∈ event.entries, IsEntryName name) ∧
        givenTo (.socket ⟨1⟩) (namesOfPublic session).1 = Utf8.encode "a\r\npub\r\n".toList ∧
        (repliesIn (namesOfPublic session).1).map (fun reply => reply.2.code) = [150, 226] := by
    decide +kernel
  obtain ⟨hverdict, hentries, hgiven, hcodes⟩ := hoften session hsession
  have hrun : Exec (Dispatch.dispatch visitedPublic.setting session "nlst".toList)
      (namesOfPublic session).1 (namesOfPublic session).2.1 :=
    exec_trace Simulation.World.answer _ _
  exact ⟨⟨history, hreachable⟩, session, _, _, hsession, hrun, ⟨⟨1⟩, hgiven⟩, hcodes,
    lists_of_reachable hreachable hsession rfl (by decide) hverdict hrun hentries⟩

end Ftp
