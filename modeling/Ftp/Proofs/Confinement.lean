import Ftp.Proofs.Footprint
import Ftp.Proofs.Reachable

/-!
# Confinement

A session reaches only what lies beneath the root of its account. The working directory of every
session is an absolute path of names that do not lead upwards (`IsWorkingDir`), which is what makes
it safe to look entries of a directory up under their names as they stand.

* `segments_of_entry`: an entry is found right beneath the working directory;
* `isWorkingDir_of_reachable`: the invariant, over every history;
* `confined_of_reachable`: every path that a line hands to the file system lies beneath the root.
-/

namespace Ftp

open Program

/-! ## Texts -/

namespace Text

theorem split_of_not_mem {sep : Char} {s : Text} (h : sep ∉ s) : split sep s = [s] := by
  induction s with
  | nil => rfl
  | cons c s ih =>
    have hc := List.ne_of_not_mem_cons h
    have hs := List.not_mem_of_not_mem_cons h
    rw [split, if_neg (Ne.symm hc), ih hs]

theorem split_append_cons {sep : Char} {s : Text} (h : sep ∉ s) (t : Text) :
    split sep (s ++ sep :: t) = s :: split sep t := by
  induction s with
  | nil => rw [List.nil_append, split, if_pos rfl]
  | cons c s ih =>
    have hc := List.ne_of_not_mem_cons h
    have hs := List.not_mem_of_not_mem_cons h
    rw [List.cons_append, split, if_neg (Ne.symm hc), ih hs]

/-- Joined pieces are cut apart again. -/
theorem split_join {sep : Char} {pieces : List Text} (hne : pieces ≠ [])
    (h : ∀ piece ∈ pieces, sep ∉ piece) : split sep (join sep pieces) = pieces := by
  induction pieces with
  | nil => exact absurd rfl hne
  | cons piece pieces ih =>
    have hpiece := h piece List.mem_cons_self
    cases pieces with
    | nil => exact split_of_not_mem hpiece
    | cons next pieces =>
      rw [join, split_append_cons hpiece,
        ih (List.cons_ne_nil _ _) fun piece hp => h piece (List.mem_cons_of_mem _ hp)]
      exact List.cons_ne_nil _ _

end Text

/-! ## Names beneath a directory -/

/-- The path of a working directory: `/`, or names after a slash with one slash between
neighbours. None of them leads upwards. -/
def IsWorkingDir (path : Text) : Prop :=
  ∃ names, (∀ name ∈ names, Path.IsName true name) ∧ path = '/' :: Text.join '/' names

/-- The path is `root` without its trailing slashes, followed by names that do not lead upwards,
each after a slash. For the root itself nothing at all is written as `/`. -/
def Beneath (root path : Text) : Prop :=
  ∃ base slashes names, root = base ++ slashes ∧ (∀ c ∈ slashes, c = '/') ∧
    base.getLast? ≠ some '/' ∧ (∀ name ∈ names, Path.IsName true name) ∧
    (path = base ++ names.flatMap ('/' :: ·) ∧ path ≠ [] ∨
      path = ['/'] ∧ base = [] ∧ names = [])

/-- What a directory may hold. -/
def IsEntryName (name : Text) : Prop :=
  name ≠ [] ∧ '/' ∉ name

namespace Path

theorem foldl_enter_false (pieces stack : List Text) :
    pieces.foldl (enter false) stack = (pieces.filter (· ≠ [])).reverse ++ stack := by
  induction pieces generalizing stack with
  | nil => rfl
  | cons piece pieces ih =>
    rw [List.foldl_cons, ih]
    by_cases hpiece : piece = [] <;> simp [enter, hpiece]

theorem filter_split_join {names : List Text} (h : ∀ name ∈ names, IsName true name) :
    (Text.split '/' (Text.join '/' names)).filter (· ≠ []) = names := by
  cases names with
  | nil => rfl
  | cons name names =>
    rw [Text.split_join (List.cons_ne_nil _ _) fun piece hp => (h piece hp).2.1]
    exact List.filter_eq_self.2 fun piece hp => decide_eq_true (h piece hp).1

/-- An entry of the working directory is looked up right beneath it, without normalization. -/
theorem segments_of_entry {names : List Text} {name : Text}
    (hnames : ∀ name ∈ names, IsName true name) (hname : IsEntryName name) :
    segments ('/' :: Text.join '/' names) name false = names ++ [name] := by
  have hrooted : isRooted ('/' :: Text.join '/' names) name = false := by
    cases name with
    | nil => exact absurd rfl hname.1
    | cons c name =>
      have hc := List.ne_of_not_mem_cons hname.2
      simp [isRooted, Ne.symm hc]
  have hpieces : Text.split '/' ('/' :: Text.join '/' names) ++ Text.split '/' name =
      [] :: (Text.split '/' (Text.join '/' names) ++ [name]) := by
    rw [Text.split_of_not_mem hname.2, Text.split, if_pos rfl, List.cons_append]
  rw [segments, base, if_neg (by rw [hrooted]; exact Bool.false_ne_true)]
  simp only [hpieces, foldl_enter_false, List.append_nil, List.reverse_reverse]
  rw [List.filter_cons_of_neg (by simp), List.filter_append, filter_split_join hnames]
  simp [hname.1]

/-- A name that is not hidden does not lead upwards. -/
theorem isName_of_shown {name : Text} (hname : IsEntryName name)
    (hshown : Listing.isHidden name = false) : IsName true name := by
  refine ⟨hname.1, hname.2, fun _ => ⟨?_, ?_⟩⟩ <;>
  · rintro rfl
    simp [Listing.isHidden] at hshown

theorem getLast?_dropEnd_ne (root : Text) :
    (Text.dropEnd (· = '/') root).getLast? ≠ some '/' := by
  rw [Text.dropEnd, List.getLast?_reverse]
  intro hlast
  have hhead := List.head?_dropWhile_not (· = '/') root.reverse
  simp [hlast] at hhead

theorem beneath_under (root : Text) {names : List Text} (h : ∀ name ∈ names, IsName true name) :
    Beneath root (under root names) := by
  refine ⟨Text.dropEnd (· = '/') root, (root.reverse.takeWhile (· = '/')).reverse, names, ?_, ?_,
    getLast?_dropEnd_ne root, h, ?_⟩
  · rw [Text.dropEnd, ← List.reverse_append, List.takeWhile_append_dropWhile, List.reverse_reverse]
  · intro c hc
    have hall := List.all_eq_true.1 List.all_takeWhile c (List.mem_reverse.1 hc)
    exact of_decide_eq_true hall
  · unfold under slashed
    cases hpath : Text.dropEnd (· = '/') root ++ names.flatMap ('/' :: ·) with
    | nil =>
      obtain ⟨hbase, hnames⟩ := List.append_eq_nil_iff.1 hpath
      refine .inr ⟨rfl, hbase, ?_⟩
      cases names with
      | nil => rfl
      | cons name names => simp at hnames
    | cons c path => exact .inl ⟨rfl, List.cons_ne_nil _ _⟩

end Path

/-! ## The working directory -/

theorem isWorkingDir_virtual (workingDir path : Text) :
    IsWorkingDir (Path.virtual workingDir path) :=
  ⟨_, fun _ h => Path.isName_of_mem_segments h, rfl⟩

theorem isWorkingDir_root : IsWorkingDir ['/'] :=
  ⟨[], by simp, rfl⟩

theorem Change.isWorkingDir {setting : Setting} {session session' : Session} {argument : Text}
    {command : Command} (h : Change setting session argument command session')
    (hdir : IsWorkingDir session.workingDir) : IsWorkingDir session'.workingDir := by
  cases h with
  | login => exact isWorkingDir_root
  | cwd | cdup => exact isWorkingDir_virtual _ _
  | _ => exact hdir

theorem Heard.isWorkingDir {setting : Setting} {session session' : Session}
    (h : Heard setting session session') (hdir : IsWorkingDir session.workingDir) :
    IsWorkingDir session'.workingDir := by
  cases h with
  | quiet => exact hdir
  | line _ hserved =>
    cases hserved with
    | refused | unknown => exact hdir
    | run _ _ hchange => exact hchange.isWorkingDir hdir

theorem Becomes.isWorkingDir {setting : Setting} {session session' : Session} {deed : Deed}
    (h : Becomes setting session deed session') (hdir : IsWorkingDir session.workingDir) :
    IsWorkingDir session'.workingDir := by
  cases h with
  | heard h => exact h.isWorkingDir hdir
  | _ => exact hdir

/-- Whatever has happened to a server, the working directories of its sessions are in order. -/
theorem isWorkingDir_of_reachable {history : List Entry} {server : Server}
    (h : Reachable history server) {slot : Nat} {session : Session}
    (hget : server.sessions.get? slot = some session) : IsWorkingDir session.workingDir := by
  refine h.session_induction (P := fun _ _ session => IsWorkingDir session.workingDir) ?_ ?_ hget
  · rintro _ _ _ _ - - - - ⟨_, _, _, _, rfl⟩
    exact isWorkingDir_root
  · intro _ _ _ _ _ _ ih _ _ _ hbecomes
    exact hbecomes.isWorkingDir ih

/-! ## Paths -/

/-- A path as the session may use it: short enough, and beneath the root that its account has
now. -/
structure Confined (setting : Setting) (session : Session) (path : Text) : Prop where
  length_le : Utf8.length path ≤ setting.config.maxPathLength.toNat
  beneath : ∃ id account, session.account = some id ∧ setting.accounts.get? id = some account ∧
    Beneath account.root path

theorem confined_of_resolve {setting : Setting} {session : Session} {path resolved : Text}
    {normalize : Bool} (h : setting.resolve session path normalize = .ok resolved)
    (hnames : ∀ name ∈ Path.segments session.workingDir path normalize, Path.IsName true name) :
    Confined setting session resolved := by
  unfold Setting.resolve Setting.root at h
  cases haccount : session.account with
  | none => rw [haccount] at h; cases h
  | some id =>
    cases hget : setting.accounts.get? id with
    | none => simp [haccount, Registry.root?, hget] at h
    | some account =>
      simp only [haccount, Registry.root?, hget, Option.bind_some, Option.map_some] at h
      split at h
      · cases h
      · rename_i hlength
        cases h
        exact ⟨Nat.le_of_not_lt hlength, id, account, haccount, hget,
          Path.beneath_under account.root hnames⟩

theorem Reaches.confined {setting : Setting} {session : Session} {target path : Text}
    (h : Reaches setting session IsEntryName target path)
    (hdir : IsWorkingDir session.workingDir) : Confined setting session path := by
  cases h with
  | target h => exact confined_of_resolve h fun _ hname => Path.isName_of_mem_segments hname
  | @entry name _ hentry hshown h =>
    obtain ⟨names, hnames, hworkingDir⟩ := hdir
    refine confined_of_resolve h fun segment hsegment => ?_
    rw [hworkingDir, Path.segments_of_entry hnames hentry] at hsegment
    rcases List.mem_append.1 hsegment with hsegment | hsegment
    · exact hnames segment hsegment
    · rw [List.mem_singleton.1 hsegment]
      exact Path.isName_of_shown hentry hshown

/-- A line hands only confined paths to the file system. -/
theorem asksOnly_confined (setting : Setting) (session : Session)
    (hdir : IsWorkingDir session.workingDir) (raw : Text) :
    (Dispatch.dispatch setting session raw).AsksOnly IsEntryName fun r =>
      ∀ path, r.path? = some path → Confined setting session path := by
  refine (asksOnly_dispatch setting session IsEntryName raw).mono fun r h path hpath => ?_
  rcases h with hfree | ⟨command, -, -, hasks⟩
  · rw [Request.path?_of_not_isGuarded hfree] at hpath
    cases hpath
  · exact (hasks.path path hpath).confined hdir

/-- Whatever has happened to a server, each of its working directories is in order, and each path
that a line of a session hands to the file system is confined. No other deed hands one out. -/
theorem confined_of_reachable {history : List Entry} {server : Server}
    (h : Reachable history server) :
    (∀ session ∈ server.sessions.sessions, IsWorkingDir session.workingDir) ∧
    (∀ session ∈ server.sessions.sessions, ∀ input raw,
      (Dispatch.dispatch server.setting { session with input } raw).AsksOnly IsEntryName fun r =>
        ∀ path, r.path? = some path → Confined server.setting session path) ∧
    ∀ deed, (∀ slot, deed ≠ .serve slot) →
      (server.perform deed).AsksOnly IsEntryName fun r => r.path? = none := by
  have hdir : ∀ session ∈ server.sessions.sessions, IsWorkingDir session.workingDir := by
    intro session hsession
    obtain ⟨slot, hget⟩ := SessionTable.mem_sessions_iff.1 hsession
    exact isWorkingDir_of_reachable h hget
  refine ⟨hdir, fun session hsession input raw => ?_, fun deed hdeed => ?_⟩
  · have hconfined := asksOnly_confined server.setting { session with input }
      (hdir session hsession) raw
    exact hconfined.mono fun r hr path hpath => ⟨(hr path hpath).length_le, (hr path hpath).beneath⟩
  · exact (asksOnly_perform deed hdeed).mono fun r hr => hr.1

/-- The server of a client that has logged in and gone down into `/pub`. -/
def visitedPub : Server :=
  visited { name := "ada", password := [], root := "/srv/ftp/", rights := .all }
    { nodes := [("/srv/ftp/pub".toList, { kind := .dir, modified := .ofUnix 0 })] }
    "USER ada\r\nPASS x\r\nCWD pub/./x/..//\r\n".toList 3

theorem confined_of_reachable_pub :
    (∃ history, Reachable history visitedPub) ∧
      visitedPub.sessions.sessions.map (fun session => (session.isLoggedIn, session.workingDir)) =
        [(true, "/pub".toList)] ∧
      (∀ session ∈ visitedPub.sessions.sessions, IsWorkingDir session.workingDir) ∧
      (∀ session ∈ visitedPub.sessions.sessions, ∀ input raw,
        (Dispatch.dispatch visitedPub.setting { session with input } raw).AsksOnly IsEntryName
          fun r => ∀ path, r.path? = some path → Confined visitedPub.setting session path) ∧
      ∀ deed, (∀ slot, deed ≠ .serve slot) →
        (visitedPub.perform deed).AsksOnly IsEntryName fun r => r.path? = none := by
  obtain ⟨history, hreachable⟩ : ∃ history, Reachable history visitedPub :=
    exists_reachable_visited _ _ _ _
  exact ⟨⟨history, hreachable⟩, by decide +kernel, confined_of_reachable hreachable⟩

end Ftp
