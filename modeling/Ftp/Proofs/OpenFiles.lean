import Mathlib.Data.List.Induction
import Mathlib.Data.List.Nodup
import Ftp.LocalDisk

/-!
# Open files

The local file system numbers the files that it opens with machine words, one after the other, and
does not look whether a number is still in use. So a handle belongs to one file for as long as fewer
files than there are words are opened while it is open, and no longer.

* `handling`: what a call makes of the handles;
* `exists_issued`: an open file has been opened by one of the calls, and not been closed since;
* `Timely.fresh`, `Timely.lasting`, `Timely.openFiles_add`: what handles mean as long as the counter
  does not come back to one that is open;
* `orderly_callAll`: what handles mean along any calls;
* `orderly_callAll_overrun`: two uploads that share a handle.
-/

namespace Ftp

/-! ## Handles -/

namespace Handles

variable {α : Type} {handles : Handles α} {file : File} {value : α}

variable (handles) in
/-- No handle denotes two things. -/
def Distinct : Prop :=
  (handles.entries.map Prod.fst).Nodup

theorem get?_eq_none_iff : handles.get? file = none ↔ file ∉ handles.entries.map Prod.fst := by
  rw [get?, List.lookup_eq_none_iff, List.mem_map]
  constructor
  · rintro h ⟨entry, hmem, rfl⟩
    exact bne_iff_ne.1 (h entry hmem) rfl
  · exact fun h entry hmem => bne_iff_ne.2 fun heq => h ⟨entry, hmem, heq.symm⟩

theorem erase_eq_self (h : handles.get? file = none) : handles.erase file = handles := by
  obtain ⟨last, entries⟩ := handles
  rw [erase, Handles.mk.injEq]
  refine ⟨rfl, List.filter_eq_self.2 fun entry hmem => decide_eq_true fun heq => ?_⟩
  exact get?_eq_none_iff.1 h (heq ▸ List.mem_map_of_mem hmem)

theorem erase_set (handles : Handles α) (file : File) (value : α) :
    (handles.set file value).erase file = handles.erase file := by
  simp [set, erase]

/-- To give out a handle and to forget it again moves the counter, if the handle was not in use. -/
theorem erase_issue (h : handles.get? handles.next = none) (value : α) :
    (handles.issue value).2.erase handles.next = ⟨handles.last + 1, handles.entries⟩ := by
  have hentries := congrArg entries (handles.erase_set handles.next value)
  rw [erase_eq_self h] at hentries
  rw [issue, erase, Handles.mk.injEq]
  exact ⟨rfl, hentries⟩

theorem Distinct.erase (h : handles.Distinct) (file : File) : (handles.erase file).Distinct :=
  h.sublist (List.filter_sublist.map _)

theorem Distinct.set (h : handles.Distinct) (file : File) (value : α) :
    (handles.set file value).Distinct :=
  List.nodup_cons.2 ⟨get?_eq_none_iff.1 (handles.get?_erase_self file), h.erase file⟩

theorem size_set (handles : Handles α) (file : File) (value : α) :
    (handles.set file value).size = (handles.erase file).size + 1 :=
  List.length_cons

theorem Distinct.size_erase (h : handles.Distinct) (get : handles.get? file = some value) :
    (handles.erase file).size + 1 = handles.size := by
  have hmem : file ∈ handles.entries.map Prod.fst := by
    by_contra hnot
    rw [get?_eq_none_iff.2 hnot] at get
    cases get
  have hkeys : (handles.erase file).entries.map Prod.fst =
      (handles.entries.map Prod.fst).erase file := by
    rw [List.Nodup.erase_eq_filter h, List.filter_map]
    congr 1
    exact List.filter_congr fun entry _ => decide_not
  have hlength := congrArg List.length hkeys
  rw [List.length_map] at hlength
  rw [size, hlength, List.length_erase_add_one hmem, List.length_map, size]

end Handles

/-! ## Calls -/

/-- A call about open files. -/
inductive FileCall where
  | open (path : Text) (mode : OpenMode)
  | read (file : File) (limit : Nat)
  | write (file : File) (bytes : List UInt8)
  | close (file : File)
  deriving DecidableEq

/-- The handle that the call names. -/
def FileCall.file? : FileCall → Option File
  | .open _ _ => none
  | .read file _ | .write file _ | .close file => some file

namespace LocalDisk

section Definitions

variable (disk : LocalDisk)

/-- Opens the file. -/
def openFile (path : Text) : OpenMode → Except IoErrorKind (File × LocalDisk)
  | .read => disk.openRead path
  | .write => disk.openWrite path

/-- The file system after a call. One that fails leaves it as it is. -/
def call : FileCall → LocalDisk
  | .open path mode =>
    match disk.openFile path mode with
    | .ok (_, disk) => disk
    | .error _ => disk
  | .read file limit =>
    match disk.read file limit with
    | .ok (_, disk) => disk
    | .error _ => disk
  | .write file bytes =>
    match disk.write file bytes with
    | .ok disk => disk
    | .error _ => disk
  | .close file => disk.close file

/-- The file system after some calls. -/
def callAll (calls : List FileCall) : LocalDisk :=
  calls.foldl call disk

/-- The handle that the call gives out. -/
def issued? : FileCall → Option File
  | .open path mode =>
    match disk.openFile path mode with
    | .ok (file, _) => some file
    | .error _ => none
  | _ => none

/-- The open handle that the call closes. -/
def closed? : FileCall → Option File
  | .close file => if (disk.handles.get? file).isSome then some file else none
  | _ => none

/-- What is noted of some calls, each in the file system that it is made of. -/
def notes (note : LocalDisk → FileCall → Option File) : LocalDisk → List FileCall → List File
  | _, [] => []
  | disk, call :: calls => (note disk call).toList ++ notes note (disk.call call) calls

/-- The handles that some calls give out, in order. -/
def issuedIn : List FileCall → List File :=
  notes issued? disk

/-- The open handles that some calls close, in order. -/
def closedIn : List FileCall → List File :=
  notes closed? disk

/-- What calls make of a handle that is not open, and what the end of a file means to the others. -/
structure Guarded : Prop where
  read : ∀ file limit, disk.handles.get? file = none →
    disk.read file limit = .error ⟨.notFound, "stale file handle"⟩ ∧
      disk.call (.read file limit) = disk
  write : ∀ file bytes, disk.handles.get? file = none →
    disk.write file bytes = .error ⟨.notFound, "stale file handle"⟩ ∧
      disk.call (.write file bytes) = disk
  close : ∀ file, disk.handles.get? file = none → disk.call (.close file) = disk
  /-- To close a file changes no file, and no other handle. -/
  get?_close : ∀ file, (disk.close file).nodes = disk.nodes ∧
    ∀ other, (disk.close file).handles.get? other =
      if other = file then none else disk.handles.get? other

/-- After some calls in between, the handle denotes what the call has opened. Only calls that name
the handle change the position in the file. -/
def Keeps (before : List FileCall) (call : FileCall) (middle : List FileCall) (file : File) :
    Prop :=
  ∃ path mode node position, call = .open path mode ∧
    (disk.callAll (before ++ [call])).handles.get? file = some ⟨node, mode, 0⟩ ∧
    (disk.callAll (before ++ call :: middle)).handles.get? file = some ⟨node, mode, position⟩ ∧
    ((∀ later ∈ middle, later.file? ≠ some file) → position = 0)

/-- What the handles mean that some calls give out. -/
structure Orderly (calls : List FileCall) : Prop where
  /-- A handle that is given out is not open. -/
  fresh : ∀ before call after file, calls = before ++ call :: after →
    (disk.callAll before).issued? call = some file →
      (disk.callAll before).handles.get? file = none
  /-- It denotes what has been opened for as long as it is not closed. -/
  lasting : ∀ before call middle after file, calls = before ++ call :: (middle ++ after) →
    (disk.callAll before).issued? call = some file → .close file ∉ middle →
      disk.Keeps before call middle file
  /-- The files that are open are those that have been opened and not closed. -/
  openFiles_add : ∀ before after, calls = before ++ after →
    (disk.callAll before).openFiles + (disk.closedIn before).length =
      (disk.issuedIn before).length

/-- While a file stays open, fewer are opened than there are handles. -/
def Timely (calls : List FileCall) : Prop :=
  ∀ before call middle after file, calls = before ++ call :: (middle ++ after) →
    (disk.callAll before).issued? call = some file → .close file ∉ middle →
      ((disk.callAll (before ++ [call])).issuedIn middle).length < UInt32.size

end Definitions

/-! ## One call -/

section Calls

variable {disk : LocalDisk} {call : FileCall} {file : File}

theorem handles_add (disk : LocalDisk) (directory : Nat) (name : Text) (content : Content) :
    (disk.add directory name content).2.handles = disk.handles := by
  unfold add
  dsimp only
  split <;> rfl

/-- To open a file is to find or to make it, and then to give out a handle for it. -/
theorem openFile_cases (disk : LocalDisk) (path : Text) (mode : OpenMode) :
    (∃ kind, disk.openFile path mode = .error kind) ∨
      ∃ found node, found.handles = disk.handles ∧
        disk.openFile path mode = .ok (issue found node mode) := by
  cases mode with
  | read =>
    simp only [openFile, openRead]
    split
    · exact .inr ⟨disk, _, rfl, rfl⟩
    · exact .inl ⟨_, rfl⟩
  | write =>
    simp only [openFile, openWrite]
    split
    · exact .inl ⟨_, rfl⟩
    · exact .inr ⟨_, _, handles_add .., rfl⟩
    · split
      · exact .inl ⟨_, rfl⟩
      · exact .inr ⟨disk.setContent _ (.file []), _, rfl, rfl⟩
      · exact .inr ⟨disk, _, rfl, rfl⟩

theorem read_of_none (h : disk.handles.get? file = none) (limit : Nat) :
    disk.read file limit = .error stale := by
  rw [read, h]

theorem write_of_none (h : disk.handles.get? file = none) (bytes : List UInt8) :
    disk.write file bytes = .error stale := by
  rw [write, h]

/-- To read from an open file is to move its position at most. -/
theorem read_cases {opened : OpenNode} (get : disk.handles.get? file = some opened) (limit : Nat) :
    (∃ error, disk.read file limit = .error error) ∨
      ∃ taken disk', disk.read file limit = .ok (taken, disk') ∧ (disk' = disk ∨
        ∃ position, disk' = { disk with
          handles := disk.handles.set file { opened with position } }) := by
  simp only [read, get]
  split
  · exact .inr ⟨_, _, rfl, .inr ⟨_, rfl⟩⟩
  · exact .inr ⟨_, _, rfl, .inl rfl⟩
  · exact .inl ⟨_, rfl⟩

theorem write_cases {opened : OpenNode} (get : disk.handles.get? file = some opened)
    (bytes : List UInt8) :
    (∃ error, disk.write file bytes = .error error) ∨
      ∃ disk', disk.write file bytes = .ok disk' ∧ (disk' = disk ∨
        ∃ position, disk'.handles = disk.handles.set file { opened with position }) := by
  simp only [write, get]
  split
  · split <;> exact .inr ⟨_, rfl, .inr ⟨_, rfl⟩⟩
  · exact .inr ⟨_, rfl, .inl rfl⟩
  · split
    · exact .inr ⟨_, rfl, .inl rfl⟩
    · exact .inl ⟨_, rfl⟩

/-- What a call makes of the handles, and the handle that it gives out. -/
inductive Handling (handles : Handles OpenNode) :
    FileCall → Option File → Handles OpenNode → Prop
  | unchanged {call : FileCall} (hcall : ∀ file, call ≠ .close file) :
    Handling handles call none handles
  | opened (path : Text) (mode : OpenMode) (node : Nat) :
    Handling handles (.open path mode) (some handles.next) (handles.issue { node, mode }).2
  | moved {call : FileCall} {file : File} {opened : OpenNode} (names : call.file? = some file)
    (hcall : ∀ file, call ≠ .close file) (get : handles.get? file = some opened) (position : Nat) :
    Handling handles call none (handles.set file { opened with position })
  | closed (file : File) : Handling handles (.close file) none (handles.erase file)

theorem handling (disk : LocalDisk) (call : FileCall) :
    Handling disk.handles call (disk.issued? call) (disk.call call).handles := by
  cases call with
  | «open» path mode =>
    simp only [LocalDisk.call, issued?]
    rcases disk.openFile_cases path mode with ⟨kind, h⟩ | ⟨found, node, hfound, h⟩
    · rw [h]
      exact .unchanged fun _ => nofun
    · rw [h, issue, hfound]
      exact .opened path mode node
  | read file limit =>
    simp only [LocalDisk.call, issued?]
    cases hget : disk.handles.get? file with
    | none =>
      rw [read_of_none hget]
      exact .unchanged fun _ => nofun
    | some opened =>
      rcases read_cases hget limit with ⟨error, h⟩ | ⟨taken, disk', h, rfl | ⟨position, rfl⟩⟩ <;>
        rw [h]
      · exact .unchanged fun _ => nofun
      · exact .unchanged fun _ => nofun
      · refine .moved rfl ?_ hget position
        exact fun _ => nofun
  | write file bytes =>
    simp only [LocalDisk.call, issued?]
    cases hget : disk.handles.get? file with
    | none =>
      rw [write_of_none hget]
      exact .unchanged fun _ => nofun
    | some opened =>
      rcases write_cases hget bytes with ⟨error, h⟩ | ⟨disk', h, rfl | ⟨position, hmoved⟩⟩ <;>
        rw [h]
      · exact .unchanged fun _ => nofun
      · exact .unchanged fun _ => nofun
      · rw [hmoved]
        refine .moved rfl ?_ hget position
        exact fun _ => nofun
  | close file => exact .closed file

/-- A handle that is given out denotes what has been opened just now. -/
theorem get?_of_issued (h : disk.issued? call = some file) :
    ∃ path mode node, call = .open path mode ∧
      (disk.call call).handles.get? file = some ⟨node, mode, 0⟩ := by
  have hhandling := disk.handling call
  rw [h] at hhandling
  generalize (disk.call call).handles = after at hhandling ⊢
  cases hhandling with
  | opened path mode node => exact ⟨path, mode, node, rfl, Handles.get?_issue_self ..⟩

/-- What is open after a call has been open before, or has just been opened. -/
theorem get?_call {opened : OpenNode} (get : (disk.call call).handles.get? file = some opened) :
    disk.issued? call = some file ∨
      call ≠ .close file ∧ (disk.handles.get? file).isSome = true := by
  have hhandling := disk.handling call
  generalize disk.issued? call = issued, (disk.call call).handles = after at hhandling get
  cases hhandling with
  | unchanged hcall => exact .inr ⟨hcall file, by rw [get]; rfl⟩
  | opened path mode node =>
    by_cases hfile : file = disk.handles.next
    · exact .inl (hfile ▸ rfl)
    · rw [Handles.get?_issue_of_ne _ _ hfile] at get
      exact .inr ⟨nofun, by rw [get]; rfl⟩
  | @moved _ other _ names hcall get' position =>
    refine .inr ⟨hcall file, ?_⟩
    by_cases hfile : file = other
    · rw [hfile, get']
      rfl
    · rw [Handles.get?_set_of_ne _ _ hfile] at get
      rw [get]
      rfl
  | closed other =>
    have hfile : file ≠ other := by
      rintro rfl
      rw [Handles.get?_erase_self] at get
      cases get
    rw [Handles.get?_erase_of_ne _ hfile] at get
    exact .inr ⟨fun heq => hfile (FileCall.close.inj heq).symm, by rw [get]; rfl⟩

/-- What is open stays so, unless it is closed or its handle is given out again. Its position
changes if the call names it. -/
theorem get?_call_of_get? {opened : OpenNode} (get : disk.handles.get? file = some opened)
    (hclose : call ≠ .close file) (hissued : disk.issued? call ≠ some file) :
    ∃ position, (disk.call call).handles.get? file = some { opened with position } ∧
      (call.file? ≠ some file → position = opened.position) := by
  have hhandling := disk.handling call
  generalize disk.issued? call = issued, (disk.call call).handles = after at hhandling hissued ⊢
  cases hhandling with
  | unchanged => exact ⟨_, get, fun _ => rfl⟩
  | opened path mode node =>
    refine ⟨_, ?_, fun _ => rfl⟩
    rw [Handles.get?_issue_of_ne _ _ fun heq => hissued (heq ▸ rfl), get]
  | @moved _ other opened' names _ get' position =>
    by_cases hfile : file = other
    · obtain rfl : opened = opened' := Option.some.inj (get.symm.trans (hfile ▸ get'))
      exact ⟨position, hfile ▸ Handles.get?_set_self .., fun hnot => absurd (hfile ▸ names) hnot⟩
    · exact ⟨_, (Handles.get?_set_of_ne _ _ hfile).trans get, fun _ => rfl⟩
  | closed other =>
    have hfile : file ≠ other := fun heq => hclose (heq ▸ rfl)
    exact ⟨_, (Handles.get?_erase_of_ne _ hfile).trans get, fun _ => rfl⟩

theorem distinct_call (h : disk.handles.Distinct) : (disk.call call).handles.Distinct := by
  have hhandling := disk.handling call
  generalize disk.issued? call = issued, (disk.call call).handles = after at hhandling ⊢
  cases hhandling with
  | unchanged => exact h
  | opened | moved => exact h.set _ _
  | closed file => exact h.erase file

theorem guarded (disk : LocalDisk) : disk.Guarded where
  read file limit h := by
    have hread := read_of_none h limit
    exact ⟨hread, by rw [LocalDisk.call, hread]⟩
  write file bytes h := by
    have hwrite := write_of_none h bytes
    exact ⟨hwrite, by rw [LocalDisk.call, hwrite]⟩
  close file h := by rw [LocalDisk.call, LocalDisk.close, Handles.erase_eq_self h]
  get?_close file := by
    refine ⟨rfl, fun other => ?_⟩
    split_ifs with hother
    · rw [hother, LocalDisk.close, Handles.get?_erase_self]
    · exact Handles.get?_erase_of_ne _ hother

theorem closed?_eq_none (hcall : ∀ file, call ≠ .close file) : disk.closed? call = none := by
  cases call with
  | close file => exact absurd rfl (hcall file)
  | _ => rfl

/-- The count of open files, where no handle is given out that is open. -/
theorem openFiles_call (h : disk.handles.Distinct)
    (fresh : ∀ file, disk.issued? call = some file → disk.handles.get? file = none) :
    (disk.call call).openFiles + (disk.closed? call).toList.length =
      disk.openFiles + (disk.issued? call).toList.length := by
  have hhandling := disk.handling call
  simp only [openFiles]
  generalize disk.issued? call = issued, (disk.call call).handles = after at hhandling fresh ⊢
  cases hhandling with
  | unchanged hcall =>
    rw [closed?_eq_none hcall]
  | opened path mode node =>
    have hsize := disk.handles.size_set disk.handles.next { node, mode }
    rw [Handles.erase_eq_self (fresh _ rfl)] at hsize
    exact hsize
  | @moved _ file opened names hcall get position =>
    rw [closed?_eq_none hcall, Handles.size_set, h.size_erase get]
  | closed file =>
    cases hget : disk.handles.get? file with
    | none => simp [closed?, hget, Handles.erase_eq_self hget]
    | some opened => simpa [closed?, hget] using h.size_erase hget

end Calls

/-! ## Some calls -/

section Sequence

variable {start : LocalDisk} {calls : List FileCall} {call : FileCall} {file : File}

@[simp] theorem callAll_nil (disk : LocalDisk) : disk.callAll [] = disk := rfl

@[simp] theorem callAll_cons (disk : LocalDisk) (call : FileCall) (calls : List FileCall) :
    disk.callAll (call :: calls) = (disk.call call).callAll calls := rfl

theorem callAll_append (disk : LocalDisk) (calls later : List FileCall) :
    disk.callAll (calls ++ later) = (disk.callAll calls).callAll later :=
  List.foldl_append

theorem callAll_concat (disk : LocalDisk) (calls : List FileCall) (call : FileCall) :
    disk.callAll (calls ++ [call]) = (disk.callAll calls).call call :=
  List.foldl_concat ..

theorem notes_append (note : LocalDisk → FileCall → Option File) (disk : LocalDisk)
    (calls later : List FileCall) :
    notes note disk (calls ++ later) =
      notes note disk calls ++ notes note (disk.callAll calls) later := by
  induction calls generalizing disk with
  | nil => rfl
  | cons call calls ih => simp only [List.cons_append, notes, callAll_cons, ih, List.append_assoc]

theorem notes_concat (note : LocalDisk → FileCall → Option File) (disk : LocalDisk)
    (calls : List FileCall) (call : FileCall) :
    notes note disk (calls ++ [call]) =
      notes note disk calls ++ (note (disk.callAll calls) call).toList := by
  rw [notes_append, notes, notes, List.append_nil]

/-- Handles are given out in order. -/
theorem last_callAll (disk : LocalDisk) (calls : List FileCall) :
    (disk.callAll calls).handles.last =
      disk.handles.last + UInt32.ofNat (disk.issuedIn calls).length := by
  induction calls using List.reverseRecOn with
  | nil => simp [issuedIn, notes]
  | append_singleton calls call ih =>
    have hhandling := (disk.callAll calls).handling call
    rw [callAll_concat, issuedIn, notes_concat, List.length_append, UInt32.ofNat_add, ← issuedIn,
      ← UInt32.add_assoc, ← ih]
    generalize (disk.callAll calls).issued? call = issued,
      ((disk.callAll calls).call call).handles = after at hhandling
    cases hhandling with
    | unchanged | moved | closed => simp [Handles.set, Handles.erase]
    | opened => rfl

/-- The counter stands at the handle that has been given out last. -/
theorem last_call_of_issued {disk : LocalDisk} (h : disk.issued? call = some file) :
    (disk.call call).handles.last = file.id := by
  have hhandling := disk.handling call
  rw [h] at hhandling
  generalize (disk.call call).handles = after at hhandling ⊢
  cases hhandling with
  | opened => rfl

/-- An open file has been opened by one of the calls, and has not been closed since. -/
theorem exists_issued (hstart : start.openFiles = 0) {opened : OpenNode}
    (get : (start.callAll calls).handles.get? file = some opened) :
    ∃ before call after, calls = before ++ call :: after ∧
      (start.callAll before).issued? call = some file ∧ .close file ∉ after := by
  induction calls using List.reverseRecOn generalizing opened with
  | nil =>
    rw [callAll_nil, Handles.get?, List.length_eq_zero_iff.1 hstart] at get
    cases get
  | append_singleton calls last ih =>
    rw [callAll_concat] at get
    rcases get?_call get with hissued | ⟨hclose, hsome⟩
    · exact ⟨calls, last, [], rfl, hissued, List.not_mem_nil⟩
    · obtain ⟨standing, hstanding⟩ := Option.isSome_iff_exists.1 hsome
      obtain ⟨before, call, after, rfl, hissued, hafter⟩ := ih hstanding
      refine ⟨before, call, after ++ [last], by simp, hissued, fun hmem => ?_⟩
      rcases List.mem_append.1 hmem with hmem | hmem
      · exact hafter hmem
      · exact hclose (List.mem_singleton.1 hmem).symm

/-- The handles of two calls are as far apart as the counter goes in between. -/
theorem id_of_issued {before after : List FileCall} {last : FileCall} {other : File}
    (hissued : (start.callAll before).issued? call = some file)
    (hlast : (start.callAll (before ++ call :: after)).issued? last = some other) :
    other.id = file.id + UInt32.ofNat
      ((start.callAll (before ++ [call])).issuedIn (after ++ [last])).length := by
  have hcounter := last_callAll (start.callAll (before ++ [call])) (after ++ [last])
  rw [List.append_cons, callAll_append] at hlast
  rwa [callAll_concat _ after, last_call_of_issued hlast, callAll_concat,
    last_call_of_issued hissued, ← callAll_concat] at hcounter

theorem length_issuedIn_concat {before after : List FileCall} {last : FileCall} {other : File}
    (hlast : (start.callAll (before ++ call :: after)).issued? last = some other) :
    ((start.callAll (before ++ [call])).issuedIn (after ++ [last])).length =
      ((start.callAll (before ++ [call])).issuedIn after).length + 1 := by
  rw [List.append_cons, callAll_append] at hlast
  rw [issuedIn, notes_concat, hlast, List.length_append]
  rfl

/-- Two calls that give out the same handle are as many files apart as there are handles. -/
theorem size_le_of_issued {before after : List FileCall} {last : FileCall}
    (hissued : (start.callAll before).issued? call = some file)
    (hlast : (start.callAll (before ++ call :: after)).issued? last = some file) :
    UInt32.size ≤ ((start.callAll (before ++ [call])).issuedIn (after ++ [last])).length := by
  have hcircle := id_of_issued hissued hlast
  rw [UInt32.left_eq_add, UInt32.ofNat_eq_iff_mod_eq_toNat] at hcircle
  refine Nat.le_of_dvd ?_ (Nat.dvd_of_mod_eq_zero hcircle)
  rw [length_issuedIn_concat hlast]
  exact Nat.succ_pos _

theorem Timely.of_append {later : List FileCall} (h : start.Timely (calls ++ later)) :
    start.Timely calls := by
  rintro before call middle after file rfl
  exact h before call middle (after ++ later) file (by simp)

/-- A handle that is given out is not open. -/
theorem Timely.fresh (timely : start.Timely (calls ++ [call])) (hstart : start.openFiles = 0)
    (hissued : (start.callAll calls).issued? call = some file) :
    (start.callAll calls).handles.get? file = none := by
  rw [Option.eq_none_iff_forall_ne_some]
  intro opened get
  obtain ⟨before, earlier, after, rfl, hearlier, hafter⟩ := exists_issued hstart get
  have hlt := timely before earlier (after ++ [call]) [] file (by simp) hearlier fun hmem => by
    rcases List.mem_append.1 hmem with hmem | hmem
    · exact hafter hmem
    · rw [← List.mem_singleton.1 hmem] at hissued
      cases hissued
  exact absurd hlt (Nat.not_lt.2 (size_le_of_issued hearlier hissued))

theorem Timely.lasting {before middle : List FileCall}
    (timely : start.Timely (before ++ call :: middle)) (hstart : start.openFiles = 0)
    (hissued : (start.callAll before).issued? call = some file) (hclose : .close file ∉ middle) :
    start.Keeps before call middle file := by
  induction middle using List.reverseRecOn with
  | nil =>
    obtain ⟨path, mode, node, hcall, get⟩ := get?_of_issued hissued
    rw [← callAll_concat] at get
    exact ⟨path, mode, node, 0, hcall, get, get, fun _ => rfl⟩
  | append_singleton middle last ih =>
    rw [← List.cons_append, ← List.append_assoc] at timely
    rw [List.mem_append, List.mem_singleton, not_or] at hclose
    obtain ⟨path, mode, node, position, hcall, hopened, get, hposition⟩ :=
      ih timely.of_append hclose.1
    have hlast : (start.callAll (before ++ call :: middle)).issued? last ≠ some file := fun h => by
      rw [timely.fresh hstart h] at get
      cases get
    obtain ⟨position', get', hkept⟩ := get?_call_of_get? get (Ne.symm hclose.2) hlast
    rw [← callAll_concat, List.append_assoc, List.cons_append] at get'
    refine ⟨path, mode, node, position', hcall, hopened, get', fun hnames => ?_⟩
    rw [hkept (hnames last (by simp))]
    exact hposition fun later hlater => hnames later (by simp [hlater])

theorem distinct_callAll (hstart : start.openFiles = 0) (calls : List FileCall) :
    (start.callAll calls).handles.Distinct := by
  induction calls using List.reverseRecOn with
  | nil =>
    rw [callAll_nil, Handles.Distinct, List.length_eq_zero_iff.1 hstart]
    exact List.nodup_nil
  | append_singleton calls call ih =>
    rw [callAll_concat]
    exact distinct_call ih

theorem Timely.openFiles_add (timely : start.Timely calls) (hstart : start.openFiles = 0) :
    (start.callAll calls).openFiles + (start.closedIn calls).length =
      (start.issuedIn calls).length := by
  induction calls using List.reverseRecOn with
  | nil => exact hstart
  | append_singleton calls call ih =>
    have hcall := openFiles_call (distinct_callAll hstart calls)
      fun _ hissued => timely.fresh hstart hissued
    rw [callAll_concat, issuedIn, closedIn, notes_concat, notes_concat, List.length_append,
      List.length_append, ← issuedIn, ← closedIn]
    have := ih timely.of_append
    omega

theorem Timely.orderly (timely : start.Timely calls) (hstart : start.openFiles = 0) :
    start.Orderly calls where
  fresh before call after file := by
    rintro rfl hissued
    rw [List.append_cons] at timely
    exact timely.of_append.fresh hstart hissued
  lasting before call middle after file := by
    rintro rfl hissued hclose
    rw [← List.cons_append, ← List.append_assoc] at timely
    exact timely.of_append.lasting hstart hissued hclose
  openFiles_add before after := by
    rintro rfl
    exact timely.of_append.openFiles_add hstart

/-- A file that stays open while as many others are opened as there are handles loses its own to
the last of them. -/
theorem Orderly.timely (orderly : start.Orderly calls) : start.Timely calls := by
  intro before call middle after file heq hissued hclose
  induction middle using List.reverseRecOn generalizing after with
  | nil => exact Nat.pos_of_ne_zero nofun
  | append_singleton middle last ih =>
    rw [List.mem_append, not_or] at hclose
    have hmiddle : calls = before ++ call :: (middle ++ last :: after) := by simpa using heq
    have hlt := ih (last :: after) hmiddle hclose.1
    cases hlast : (start.callAll (before ++ call :: middle)).issued? last with
    | none =>
      rw [List.append_cons, callAll_append] at hlast
      rwa [issuedIn, notes_concat, hlast, Option.toList_none, List.append_nil, ← issuedIn]
    | some other =>
      have hid := id_of_issued hissued hlast
      rw [length_issuedIn_concat hlast] at hid ⊢
      refine Nat.lt_of_le_of_ne hlt fun hsize => ?_
      -- The last call gives out the handle of the file, which is open.
      rw [hsize, UInt32.ofNat_size, UInt32.add_zero] at hid
      obtain rfl : other = file := congrArg File.mk hid
      have hfresh := orderly.fresh (before ++ call :: middle) last after other
        (by simpa using hmiddle) hlast
      obtain ⟨_, _, _, _, -, -, get, -⟩ :=
        orderly.lasting before call middle (last :: after) other hmiddle hissued hclose.1
      rw [hfresh] at get
      cases get

/-- So many files that the counter does not pass a handle twice are opened in time. -/
theorem timely_of_length_issuedIn_le (h : (start.issuedIn calls).length ≤ UInt32.size) :
    start.Timely calls := by
  rintro before call middle after file rfl hissued -
  rw [List.append_cons, issuedIn, notes_append, notes_append, notes, hissued, notes_append] at h
  simp only [List.length_append, Option.toList_some, List.length_singleton] at h
  rw [issuedIn]
  omega

/-- What calls make of the handles: one that is not open is refused without effect, and each is the
own handle of a file exactly if no file stays open while as many are opened as there are handles. -/
theorem orderly_callAll (hstart : start.openFiles = 0) :
    (∀ disk : LocalDisk, disk.Guarded) ∧ (start.Orderly calls ↔ start.Timely calls) ∧
      ((start.issuedIn calls).length ≤ UInt32.size → start.Timely calls) :=
  ⟨guarded, ⟨Orderly.timely, fun timely => timely.orderly hstart⟩, timely_of_length_issuedIn_le⟩

theorem orderly_callAll_upload :
    empty.openFiles = 0 ∧
      (∀ disk : LocalDisk, disk.Guarded) ∧
        empty.Orderly [.open "/tmp/ftp-folder/a" .write, .open "/dev/null" .read, .write ⟨1⟩ [0],
          .close ⟨2⟩, .close ⟨2⟩, .open "/tmp/ftp-folder/b" .write] :=
  have hstart : empty.openFiles = 0 := rfl
  have ⟨hguarded, horderly, htimely⟩ := orderly_callAll hstart
  ⟨hstart, hguarded, horderly.2 (htimely (by decide))⟩

end Sequence

/-! ## Too many files -/

section Overrun

variable {disk : LocalDisk} {path : Text} {node : Nat}

/-- Opens a file for reading and closes it, over and over, where `last` is the handle that was given
out last. -/
def churn (path : Text) : UInt32 → Nat → List FileCall
  | _, 0 => []
  | last, rounds + 1 => .open path .read :: .close ⟨last + 1⟩ :: churn path (last + 1) rounds

theorem add_add_ofNat (last : UInt32) (n : Nat) :
    last + 1 + UInt32.ofNat n = last + UInt32.ofNat (n + 1) := by
  rw [UInt32.ofNat_add, UInt32.add_comm (UInt32.ofNat n), UInt32.add_assoc]
  rfl

/-- The other handles come before the counter is back where it has been. -/
theorem add_ofNat_ne (last : UInt32) {n : Nat} (hn : n < UInt32.size - 1) :
    last + UInt32.ofNat (n + 1) ≠ last := by
  rw [ne_eq, UInt32.add_eq_left, UInt32.ofNat_eq_iff_mod_eq_toNat,
    Nat.mod_eq_of_lt (Nat.add_lt_of_lt_sub hn)]
  exact Nat.succ_ne_zero n

theorem close_notMem_churn {file : File} {last : UInt32} {rounds : Nat}
    (h : ∀ n < rounds, file ≠ ⟨last + UInt32.ofNat (n + 1)⟩) :
    .close file ∉ churn path last rounds := by
  induction rounds generalizing last with
  | zero => exact List.not_mem_nil
  | succ rounds ih =>
    have hrest : .close file ∉ churn path (last + 1) rounds := ih fun n hn => by
      rw [add_add_ofNat]
      exact h (n + 1) (Nat.succ_lt_succ hn)
    have hfirst : file ≠ ⟨last + 1⟩ := h 0 (Nat.succ_pos rounds)
    simp [churn, hrest, hfirst]

/-- What a path leads to does not depend on the files that are open. -/
theorem walk_handles (disk : LocalDisk) (handles : Handles OpenNode) (goal : Goal)
    (fuel links : Nat) (stack : List Nat) (segments : List Text) :
    walk ⟨disk.nodes, handles⟩ goal fuel links stack segments =
      disk.walk goal fuel links stack segments := by
  induction fuel generalizing links stack segments with
  | zero => rfl
  | succ fuel ih =>
    cases segments with
    | nil => rfl
    | cons segment rest =>
      simp only [walk, ih]
      rfl

theorem locate_handles (disk : LocalDisk) (handles : Handles OpenNode) (path : Text) :
    locate ⟨disk.nodes, handles⟩ path = disk.locate path := by
  simp only [locate, find, walk_handles]

/-- All that is left of files that have been opened and closed is where the counter stands. -/
theorem callAll_churn (hlocate : disk.locate path = .ok node) (rounds : Nat)
    (hfree : ∀ n < rounds, disk.handles.get? ⟨disk.handles.last + UInt32.ofNat (n + 1)⟩ = none) :
    disk.callAll (churn path disk.handles.last rounds) =
        ⟨disk.nodes, disk.handles.last + UInt32.ofNat rounds, disk.handles.entries⟩ ∧
      (disk.issuedIn (churn path disk.handles.last rounds)).length = rounds ∧
      (disk.closedIn (churn path disk.handles.last rounds)).length = rounds := by
  induction rounds generalizing disk with
  | zero => simp [churn, issuedIn, closedIn, notes]
  | succ rounds ih =>
    have hfile : disk.openFile path .read = .ok (disk.issue node .read) := by
      rw [openFile, openRead, hlocate]
    have hopen : disk.call (.open path .read) = (disk.issue node .read).2 := by
      rw [LocalDisk.call, hfile]
    have hissue : disk.issued? (.open path .read) = some disk.handles.next := by
      rw [issued?, hfile]
      rfl
    have hclose : (disk.issue node .read).2.call (.close disk.handles.next) =
        ⟨disk.nodes, disk.handles.last + 1, disk.handles.entries⟩ := by
      rw [LocalDisk.call, LocalDisk.close, issue]
      exact congrArg (LocalDisk.mk disk.nodes) (Handles.erase_issue (hfree 0 (by simp)) _)
    have hclosing : (disk.issue node .read).2.closed? (.close disk.handles.next) =
        some disk.handles.next := by
      rw [closed?, if_pos]
      exact Option.isSome_of_eq_some (Handles.get?_issue_self ..)
    have hlocate' := (disk.locate_handles ⟨disk.handles.last + 1, disk.handles.entries⟩ path).trans
      hlocate
    obtain ⟨hcallAll, hissued, hclosed⟩ := ih hlocate' fun n hn => by
      rw [add_add_ofNat]
      exact hfree (n + 1) (Nat.succ_lt_succ hn)
    rw [add_add_ofNat] at hcallAll
    rw [issuedIn] at hissued
    rw [closedIn] at hclosed
    rw [churn, ← Handles.next, issuedIn, closedIn]
    simp only [callAll_cons, notes, hopen, hclose, hissue, hclosing]
    exact ⟨hcallAll, by simpa [issued?] using hissued, by simpa [closed?] using hclosed⟩

/-- Makes or empties a file of one letter in the home directory, and opens it for writing. -/
def upload (name : Char) : FileCall :=
  .open ("/tmp/ftp-folder/".toList ++ [name]) .write

/-- An upload goes on while files are read under all the other handles, one after the other. -/
def overrun : List FileCall :=
  upload 'a' :: churn "/dev/null" 1 (UInt32.size - 1)

theorem callAll_overrun :
    empty.callAll overrun = ⟨(empty.call (upload 'a')).nodes, 0, [(⟨1⟩, ⟨5, .write, 0⟩)]⟩ ∧
      (empty.issuedIn overrun).length = UInt32.size ∧
      (empty.closedIn overrun).length = UInt32.size - 1 := by
  have hlast : (empty.call (upload 'a')).handles.last = 1 := rfl
  have hentries : (empty.call (upload 'a')).handles.entries = [(⟨1⟩, ⟨5, .write, 0⟩)] := rfl
  have hissue : empty.issued? (upload 'a') = some ⟨1⟩ := rfl
  have hclose : empty.closed? (upload 'a') = none := rfl
  have hlocate : (empty.call (upload 'a')).locate "/dev/null" = .ok 4 := rfl
  have hcircle : 1 + UInt32.ofNat (UInt32.size - 1) = 0 := by decide
  have hfree : ∀ n < UInt32.size - 1, (empty.call (upload 'a')).handles.get?
      ⟨(empty.call (upload 'a')).handles.last + UInt32.ofNat (n + 1)⟩ = none := by
    intro n hn
    rw [Handles.get?_eq_none_iff, hentries, hlast]
    simpa using add_ofNat_ne 1 hn
  obtain ⟨hcallAll, hissued, hclosed⟩ := callAll_churn hlocate _ hfree
  rw [hlast] at hcallAll hissued hclosed
  rw [hcircle, hentries] at hcallAll
  -- The calls are never run here: each part is rewritten with what is known of all the rounds.
  refine ⟨?_, ?_, ?_⟩
  · rw [overrun, callAll_cons, hcallAll]
  · rw [issuedIn] at hissued
    rw [overrun, issuedIn, notes, List.length_append, hissued, hissue]
    exact Nat.add_sub_cancel' (by decide : 1 ≤ UInt32.size)
  · rw [closedIn] at hclosed
    rw [overrun, closedIn, notes, List.length_append, hclosed, hclose]
    exact Nat.zero_add _

/-- The counter comes back to the handle of an upload that goes on, and gives it to another one:
what belongs to the first file is written to the second, and a file is lost from the count. -/
theorem orderly_callAll_overrun :
    empty.openFiles = 0 ∧ .close ⟨1⟩ ∉ overrun ∧
      (empty.callAll overrun).handles.get? ⟨1⟩ = some ⟨5, .write, 0⟩ ∧
      (empty.callAll overrun).issued? (upload 'b') = some ⟨1⟩ ∧
      (empty.callAll (overrun ++ [upload 'b'])).handles.get? ⟨1⟩ = some ⟨6, .write, 0⟩ ∧
      (empty.callAll (overrun ++ [upload 'b'])).locate "/tmp/ftp-folder/a" = .ok 5 ∧
      (empty.callAll (overrun ++ [upload 'b'])).locate "/tmp/ftp-folder/b" = .ok 6 ∧
      (empty.callAll (overrun ++ [upload 'b', .write ⟨1⟩ [0]])).content 5 = .file [] ∧
      (empty.callAll (overrun ++ [upload 'b', .write ⟨1⟩ [0]])).content 6 = .file [0] ∧
      (empty.callAll (overrun ++ [upload 'b'])).openFiles = 1 ∧
      (empty.issuedIn (overrun ++ [upload 'b'])).length = UInt32.size + 1 ∧
      (empty.closedIn (overrun ++ [upload 'b'])).length = UInt32.size - 1 ∧
      ¬ empty.Orderly (overrun ++ [upload 'b']) := by
  obtain ⟨hcallAll, hissued, hclosed⟩ := callAll_overrun
  have get : (empty.callAll overrun).handles.get? ⟨1⟩ = some ⟨5, .write, 0⟩ := by
    rw [hcallAll]
    rfl
  have hissue : (empty.callAll overrun).issued? (upload 'b') = some ⟨1⟩ := by
    rw [hcallAll]
    rfl
  have hclose : (empty.callAll overrun).closed? (upload 'b') = none := rfl
  have hlater (later : List FileCall) : empty.callAll (overrun ++ later) =
      callAll ⟨(empty.call (upload 'a')).nodes, 0, [(⟨1⟩, ⟨5, .write, 0⟩)]⟩ later := by
    rw [callAll_append, hcallAll]
  simp only [hlater]
  refine ⟨rfl, ?_, get, hissue, rfl, rfl, rfl, rfl, rfl, rfl, ?_, ?_, fun h => ?_⟩
  · rw [overrun, List.mem_cons, not_or]
    refine ⟨nofun, close_notMem_churn fun n hn heq => ?_⟩
    exact add_ofNat_ne 1 hn (File.mk.inj heq).symm
  · rw [issuedIn] at hissued ⊢
    rw [notes_concat, hissue, List.length_append, hissued]
    rfl
  · rw [closedIn] at hclosed ⊢
    rw [notes_concat, hclose, List.length_append, hclosed]
    rfl
  · have hfresh := h.fresh overrun (upload 'b') [] ⟨1⟩ rfl hissue
    rw [get] at hfresh
    cases hfresh

end Overrun

end LocalDisk

end Ftp
