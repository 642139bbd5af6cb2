import Ftp.Proofs.Confinement

/-!
# Navigation

Where a path leads is said twice: by `Path.Walks`, which takes the pieces of the path one after
another down from the root, and by the stack that the server keeps. `walks_iff` says that they are
the same. A virtual path is made of names only, so walking it again changes nothing
(`segments_absolute`), and the pieces of a path that goes on after a slash are those of its two
parts (`segments_append`).

* `navigates`: the path that is looked up, the path that is shown and the directory that is changed
  to are one and the same walk, which starts over at a virtual path where it has ended.
-/

namespace Ftp

open Program

/-! ## Texts -/

/-- Cutting goes on after a separator as if the text began there. -/
theorem Text.split_append (sep : Char) (s t : Text) :
    split sep (s ++ sep :: t) = split sep s ++ split sep t := by
  induction s with
  | nil => simp [split]
  | cons c s ih =>
    by_cases hc : c = sep
    · rw [List.cons_append, split, if_pos hc, ih, split, if_pos hc, List.cons_append]
    · cases hs : split sep s with
      | nil => exact absurd hs (split_ne_nil sep s)
      | cons piece pieces =>
        rw [hs, List.cons_append] at ih
        simp only [List.cons_append, split, if_neg hc, ih, hs]

namespace Path

/-! ## Walks -/

/-- The pieces between the slashes, those of the working directory before those of the path,
unless the path starts at the root. -/
def pieces (workingDir path : Text) : List Text :=
  if path.head? = some '/' ∨ path = workingDir then Text.split '/' path
  else Text.split '/' workingDir ++ Text.split '/' path

/-- One piece of a path leads from one directory to the next. A directory is given by the names
from the root down to it. -/
inductive Moves : (here : List Text) → (piece : Text) → (there : List Text) → Prop
  | empty (here : List Text) : Moves here [] here
  | dot (here : List Text) : Moves here ['.'] here
  /-- The root is its own parent. -/
  | up (here : List Text) : Moves here ['.', '.'] here.dropLast
  | down (here : List Text) {name : Text} : name ≠ [] → name ≠ ['.'] → name ≠ ['.', '.'] →
    Moves here name (here ++ [name])

/-- The pieces of a path, one after another. -/
inductive Walks : (here pieces there : List Text) → Prop
  | done (here : List Text) : Walks here [] here
  | step {here next there : List Text} {piece : Text} {pieces : List Text} :
    Moves here piece next → Walks next pieces there → Walks here (piece :: pieces) there

theorem moves_iff {stack there : List Text} {piece : Text} :
    Moves stack.reverse piece there ↔ there = (enter true stack piece).reverse := by
  constructor
  · intro h
    generalize hhere : stack.reverse = here at h
    cases h with
    | empty | dot => exact hhere.symm
    | up => rw [← hhere, List.dropLast_reverse]; rfl
    | down hempty hdot hup => simp [enter, hempty, hdot, hup, hhere]
  · rintro rfl
    by_cases hempty : piece = []
    · subst hempty; exact .empty _
    by_cases hdot : piece = ['.']
    · subst hdot; exact .dot _
    by_cases hup : piece = ['.', '.']
    · subst hup
      have hmove := Moves.up stack.reverse
      rw [List.dropLast_reverse] at hmove
      exact hmove
    · simp only [enter, hempty, hdot, hup, and_false, if_false, List.reverse_cons]
      exact .down _ hempty hdot hup

theorem walks_iff {stack there : List Text} {pieces : List Text} :
    Walks stack.reverse pieces there ↔ there = (pieces.foldl (enter true) stack).reverse := by
  induction pieces generalizing stack with
  | nil =>
    constructor
    · intro h; cases h; rfl
    · rintro rfl; exact .done _
  | cons piece pieces ih =>
    rw [List.foldl_cons, ← ih]
    constructor
    · intro h
      cases h with
      | step hmove hwalk => exact moves_iff.1 hmove ▸ hwalk
    · exact fun h => .step (moves_iff.2 rfl) h

/-- The empty piece before a leading slash leads nowhere. -/
theorem foldl_pieces (workingDir path : Text) :
    (pieces workingDir path).foldl (enter true) [] = (segments workingDir path true).reverse := by
  unfold pieces segments base
  by_cases hrooted : isRooted workingDir path = true
  · have hpath : path.head? = some '/' ∨ path = workingDir := by
      simpa [isRooted] using hrooted
    rw [if_pos hpath, if_pos hrooted, List.reverse_reverse]
    rfl
  · have hpath : ¬(path.head? = some '/' ∨ path = workingDir) := by
      simpa [isRooted] using hrooted
    rw [if_neg hpath, if_neg hrooted, List.reverse_reverse]

/-- There is one way to walk a path. -/
theorem walks_pieces_iff {workingDir path : Text} {there : List Text} :
    Walks [] (pieces workingDir path) there ↔ there = segments workingDir path true := by
  have h : Walks [].reverse (pieces workingDir path) there ↔ _ := walks_iff
  rwa [foldl_pieces, List.reverse_reverse] at h

/-! ## Paths of names -/

theorem foldl_names {names : List Text} (hnames : ∀ name ∈ names, IsName true name)
    (stack : List Text) : names.foldl (enter true) stack = names.reverse ++ stack := by
  induction names generalizing stack with
  | nil => rfl
  | cons name names ih =>
    obtain ⟨hempty, -, hdots⟩ := hnames name List.mem_cons_self
    obtain ⟨hdot, hup⟩ := hdots rfl
    rw [List.foldl_cons, ih fun name hname => hnames name (List.mem_cons_of_mem _ hname)]
    simp [enter, hempty, hdot, hup]

theorem foldl_absolute {names : List Text} (hnames : ∀ name ∈ names, IsName true name) :
    (Text.split '/' (absolute names)).foldl (enter true) [] = names.reverse := by
  cases names with
  | nil => rfl
  | cons name names =>
    rw [absolute, Text.split, if_pos rfl,
      Text.split_join (List.cons_ne_nil _ _) fun piece hpiece => (hnames piece hpiece).2.1,
      List.foldl_cons]
    exact (foldl_names hnames []).trans (List.append_nil _)

/-- A path of names leads along these names, wherever it is walked. -/
theorem segments_absolute {names : List Text} (hnames : ∀ name ∈ names, IsName true name)
    (workingDir : Text) : segments workingDir (absolute names) true = names := by
  have hfold := foldl_pieces workingDir (absolute names)
  rw [pieces, if_pos (.inl rfl), foldl_absolute hnames] at hfold
  exact (List.reverse_inj.1 hfold).symm

/-- A path that goes on after a slash is walked in two parts. -/
theorem segments_append {workingDir path rest : Text} (hdir : workingDir.head? = some '/')
    (hpath : path ≠ []) :
    segments workingDir (path ++ '/' :: rest) true =
      ((Text.split '/' rest).foldl (enter true)
        (segments workingDir path true).reverse).reverse := by
  have hhead : (path ++ '/' :: rest).head? = path.head? := by
    cases path with
    | nil => exact absurd rfl hpath
    | cons c path => rfl
  -- A path that does not start with a slash is no working directory, with or without the rest.
  have hrooted : isRooted workingDir (path ++ '/' :: rest) = isRooted workingDir path := by
    unfold isRooted
    rw [hhead]
    by_cases hslash : path.head? = some '/'
    · simp [hslash]
    · have hne : path ≠ workingDir := by rintro rfl; exact hslash hdir
      have hne' : path ++ '/' :: rest ≠ workingDir := by
        intro heq
        rw [← heq, hhead] at hdir
        exact hslash hdir
      simp [hslash, hne, hne']
  simp only [segments, base, hrooted, Text.split_append, List.foldl_append, List.reverse_reverse]

theorem virtual_virtual_append {workingDir path rest : Text} (hdir : workingDir.head? = some '/')
    (hpath : path ≠ []) (hrest : rest.head? ≠ some '/') :
    virtual (virtual workingDir path) rest = virtual workingDir (path ++ '/' :: rest) := by
  have hfold := foldl_pieces (virtual workingDir path) rest
  have hnot : ¬(rest.head? = some '/' ∨ rest = virtual workingDir path) := by
    rintro (h | rfl)
    · exact hrest h
    · exact hrest rfl
  rw [pieces, if_neg hnot, List.foldl_append, virtual,
    foldl_absolute fun _ hname => isName_of_mem_segments hname] at hfold
  rw [virtual, virtual, virtual, segments_append hdir hpath, hfold, List.reverse_reverse]

/-! ## The end of a path -/

theorem join_cons_eq_slashed (names : List Text) (hne : names ≠ []) :
    '/' :: Text.join '/' names = slashed names := by
  induction names with
  | nil => exact absurd rfl hne
  | cons name names ih =>
    cases names with
    | nil => simp [slashed, Text.join]
    | cons next names =>
      rw [Text.join, ih (List.cons_ne_nil _ _)]
      · rfl
      · exact List.cons_ne_nil _ _

/-- A virtual path is a path under an empty root. -/
theorem absolute_eq_under (names : List Text) : absolute names = under [] names := by
  cases names with
  | nil => rfl
  | cons name names => exact join_cons_eq_slashed _ (List.cons_ne_nil _ _)

end Path

/-- Only the root itself ends in a slash. -/
theorem Beneath.eq_of_getLast? {root path : Text} (h : Beneath root path)
    (hlast : path.getLast? = some '/') : path = ['/'] := by
  obtain ⟨base, slashes, names, -, -, hbase, hnames, ⟨hpath, -⟩ | ⟨hpath, -, -⟩⟩ := h
  · rcases List.eq_nil_or_concat names with rfl | ⟨names, name, rfl⟩
    · rw [hpath, List.flatMap_nil, List.append_nil] at hlast
      exact absurd hlast hbase
    · obtain ⟨hempty, hslash, -⟩ := hnames name (by simp)
      obtain ⟨front, c, rfl⟩ := (List.eq_nil_or_concat name).resolve_left hempty
      have hend : (base ++ names.flatMap ('/' :: ·) ++ '/' :: (front ++ [c])).getLast? =
          some c := by
        rw [← List.cons_append, ← List.append_assoc, List.getLast?_concat]
      rw [hpath, List.concat_eq_append, List.flatMap_append, List.flatMap_singleton,
        List.concat_eq_append, ← List.append_assoc, hend] at hlast
      exact absurd (by simp [Option.some.inj hlast]) hslash
  · exact hpath

/-! ## Resolution -/

namespace Path

/-- What looking at the file behind a path tells about going there. -/
def entered (shown : Text) : Except IoError FileInfo → Except PathError Text
  | .ok info => if info.kind = .dir then .ok shown else .error (.notADirectory shown)
  | .error _ => .error (.notFound shown)

/-- What is known of a path in a working directory under a root. -/
structure Navigates (root workingDir path : Text) : Prop where
  /-- The walk has one end, which is looked up under the root and shown under `/`. -/
  folded : ∃ names, (∀ there, Walks [] (pieces workingDir path) there ↔ there = names) ∧
    resolve root workingDir path true = under root names ∧
    virtual workingDir path = '/' :: Text.join '/' names
  /-- Going somewhere and then on is going there in one path. -/
  composed : workingDir.head? = some '/' → path ≠ [] → ∀ rest : Text, rest.head? ≠ some '/' →
    virtual (virtual workingDir path) rest = virtual workingDir (path ++ '/' :: rest)
  /-- The path that is shown names the same file, wherever it is used. -/
  resolved : ∀ other,
    resolve root other (virtual workingDir path) true = resolve root workingDir path true
  settled : ∀ other, virtual other (virtual workingDir path) = virtual workingDir path
  /-- Changing the directory looks at the file that the path names, and at nothing else. -/
  changed : ∀ events result, Exec (changeDirectory root workingDir path) events result ↔
    ∃ answer, events = [⟨.stat (resolve root workingDir path true), answer⟩] ∧
      result = entered (virtual workingDir path) answer
  trimmed : ∀ written,
    written = resolve root workingDir path true ∨ written = virtual workingDir path →
    written.getLast? = some '/' → written = ['/']

theorem exec_changeDirectory {root workingDir path : Text} {events : List Event}
    {result : Except PathError Text} :
    Exec (changeDirectory root workingDir path) events result ↔
      ∃ answer, events = [⟨.stat (resolve root workingDir path true), answer⟩] ∧
        result = entered (virtual workingDir path) answer := by
  have hrun : changeDirectory root workingDir path =
      .ask (.stat (resolve root workingDir path true)) fun answer =>
        .done (entered (virtual workingDir path) answer) := by
    refine congrArg (Program.ask _) (funext fun answer => ?_)
    cases answer <;> rfl
  simp only [hrun, exec_ask_iff, exec_done_iff]
  constructor
  · rintro ⟨answer, _, rfl, rfl, rfl⟩
    exact ⟨answer, rfl, rfl⟩
  · rintro ⟨answer, rfl, rfl⟩
    exact ⟨answer, [], rfl, rfl, rfl⟩

/-- For every root, working directory and path. -/
theorem navigates (root workingDir path : Text) : Navigates root workingDir path := by
  have hnames : ∀ name ∈ segments workingDir path true, IsName true name :=
    fun _ hname => isName_of_mem_segments hname
  refine ⟨⟨_, fun _ => walks_pieces_iff, rfl, rfl⟩, ?composed, ?resolved, ?settled,
    fun _ _ => exec_changeDirectory, ?trimmed⟩
  case composed =>
    exact fun hdir hpath _ hrest => virtual_virtual_append hdir hpath hrest
  case resolved =>
    intro other
    rw [resolve, virtual, segments_absolute hnames, resolve]
  case settled =>
    intro other
    rw [virtual, virtual, segments_absolute hnames]
  case trimmed =>
    rintro written (rfl | rfl) hlast
    · exact (beneath_under root hnames).eq_of_getLast? hlast
    · rw [virtual, absolute_eq_under] at hlast ⊢
      exact (beneath_under [] hnames).eq_of_getLast? hlast

example : Path.virtual "/pub/new" "../..//../x/./y/" = "/x/y" := by decide

end Path

end Ftp
