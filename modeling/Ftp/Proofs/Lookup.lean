import Ftp.Dispatch
import Ftp.Text.Utf8

/-!
# Looking up commands

Three notions of the end of a verb meet on a command line. The part that is put in upper case ends
at white space of any kind. A command is found by the letters that the line begins with, whatever
comes next. Its argument begins behind the spaces and tabs that follow the letters.

* `Utf8.splitAt?_length`: a text may be cut where a part of it ends;
* `Command.isPrefix_upperVerb_iff`: which lines begin with a verb;
* `Command.Begins.unique`: no line begins with two;
* `Command.argument_of_padding`: what a command is given;
* `Dispatch.dispatch_of_begins`, `Dispatch.dispatch_of_none`: what becomes of a line.
-/

namespace Ftp

/-! ## Bytes -/

namespace Utf8

/-- The text before and after so many bytes. There is none if the text has fewer, or if the bytes
end within a character. -/
def splitAt? : Nat → Text → Option (Text × Text)
  | 0, s => some ([], s)
  | _ + 1, [] => none
  | n + 1, c :: s =>
    if c.utf8Size ≤ n + 1 then
      (splitAt? (n + 1 - c.utf8Size) s).map fun (before, after) => (c :: before, after)
    else none

/-- The number of bytes in front of the first character of the class, or of all bytes if there is
none. -/
def index (p : Char → Bool) : Text → Nat
  | [] => 0
  | c :: s => if p c then 0 else c.utf8Size + index p s

theorem splitAt?_length (before after : Text) :
    splitAt? (length before) (before ++ after) = some (before, after) := by
  induction before with
  | nil => cases after <;> rfl
  | cons c before ih =>
    obtain ⟨n, hn⟩ := Nat.exists_eq_add_of_le' (Nat.le_add_right_of_le c.utf8Size_pos)
    rw [length, hn, List.cons_append, splitAt?, if_pos (by omega)]
    rw [show n + 1 - c.utf8Size = length before by omega, ih]
    rfl

theorem index_eq (p : Char → Bool) (s : Text) : index p s = length (s.takeWhile (!p ·)) := by
  induction s with
  | nil => rfl
  | cons c s ih =>
    by_cases hc : p c = true
    · simp [index, hc, length]
    · simp [index, hc, length, ih]

end Utf8

/-! ## Upper case -/

theorem Text.isBlank_toUpper (c : Char) : isBlank c.toUpper = isBlank c := by
  unfold Char.toUpper
  split
  · rename_i h
    rw [isBlank_eq_false_of_toNat, isBlank_eq_false_of_toNat]
    all_goals
      simp only [UInt32.le_iff_toNat_le, Char.toNat] at h ⊢
      simp at h ⊢
      omega
  · rfl

namespace Command

section UpperVerb

variable {c : Char} {line first rest : Text}

theorem upperVerb_cons (c : Char) (line : Text) : upperVerb (c :: line) =
    if Text.isBlank c then c :: line else c.toUpper :: upperVerb line := by
  cases hc : Text.isBlank c <;> simp [upperVerb, hc, Text.asciiUpper]

theorem upperVerb_append (h : ∀ c ∈ first, Text.isBlank c = false) (rest : Text) :
    upperVerb (first ++ rest) = Text.asciiUpper first ++ upperVerb rest := by
  induction first with
  | nil => rfl
  | cons c first ih =>
    rw [List.cons_append, upperVerb_cons, if_neg (by simp [h c List.mem_cons_self]),
      ih fun c hmem => h c (List.mem_cons_of_mem _ hmem)]
    rfl

/-- There is nothing to put in upper case in front of white space. -/
theorem upperVerb_eq_self (h : ∀ c ∈ line.head?, Text.isBlank c = true) :
    upperVerb line = line := by
  cases line with
  | nil => rfl
  | cons c line => rw [upperVerb_cons, if_pos (h c rfl)]

/-- Upper case neither makes white space nor takes it away. -/
theorem isBlank_of_asciiUpper (h : ∀ c ∈ Text.asciiUpper first, Text.isBlank c = false) :
    ∀ c ∈ first, Text.isBlank c = false := fun c hc => by
  rw [← Text.isBlank_toUpper]
  exact h _ (List.mem_map_of_mem hc)

end UpperVerb

/-! ## Verbs -/

/-- The line begins with the letters of the verb, in upper or in lower case. -/
def Begins (command : Command) (line : Text) : Prop :=
  ∃ first rest, line = first ++ rest ∧ Text.asciiUpper first = command.verb

/-- The line with its first token in upper case, cut at the byte where white space is found. -/
def upperVerb? (line : Text) : Option Text :=
  (Utf8.splitAt? (Utf8.index Text.isBlank line) line).map fun (token, rest) =>
    Text.asciiUpper token ++ rest

/-- What a line says after the verb of the command, cut after the bytes of the verb. -/
def argument? (command : Command) (line : Text) : Option Text :=
  (Utf8.splitAt? (Utf8.length command.verb) line).map fun (_, rest) =>
    rest.dropWhile Text.isPadding

section Verbs

variable {command other : Command} {first rest line : Text} {extensions : Bool}
  {table : List Command}

theorem solid_verb (command : Command) : ∀ c ∈ command.verb, Text.isBlank c = false := by
  have hall : command.verb.all (!Text.isBlank ·) = true := by cases command <;> decide
  simpa using hall

/-- No verb is the beginning of another one. -/
theorem eq_of_verb_isPrefix : command.verb <+: other.verb → command = other := by
  have hall : ∀ command ∈ all, ∀ other ∈ all, command.verb <+: other.verb → command = other := by
    decide +kernel
  exact hall command (by cases command <;> decide) other (by cases other <;> decide)

theorem solid_of_asciiUpper (h : Text.asciiUpper first = command.verb) :
    ∀ c ∈ first, Text.isBlank c = false :=
  isBlank_of_asciiUpper (h ▸ solid_verb command)

theorem upperVerb_of_verb (h : Text.asciiUpper first = command.verb) (rest : Text) :
    upperVerb (first ++ rest) = command.verb ++ upperVerb rest := by
  rw [upperVerb_append (solid_of_asciiUpper h), h]

theorem exists_of_isPrefix_upperVerb {verb : Text} (hsolid : ∀ c ∈ verb, Text.isBlank c = false)
    (h : verb <+: upperVerb line) :
    ∃ first rest, line = first ++ rest ∧ Text.asciiUpper first = verb := by
  induction verb generalizing line with
  | nil => exact ⟨[], line, rfl, rfl⟩
  | cons v verb ih =>
    obtain ⟨hv, hverb⟩ := List.forall_mem_cons.1 hsolid
    cases line with
    | nil => exact absurd (List.prefix_nil.1 h) (List.cons_ne_nil _ _)
    | cons c line =>
      rw [upperVerb_cons] at h
      split at h
      · -- The verb would go on past white space.
        rename_i hblank
        rw [← (List.cons_prefix_cons.1 h).1, hv] at hblank
        cases hblank
      · obtain ⟨hc, hrest⟩ := List.cons_prefix_cons.1 h
        obtain ⟨first, rest, rfl, hfirst⟩ := ih hverb hrest
        exact ⟨c :: first, rest, rfl, by rw [hc, ← hfirst]; rfl⟩

theorem isPrefix_upperVerb_iff : command.verb <+: upperVerb line ↔ command.Begins line := by
  refine ⟨exists_of_isPrefix_upperVerb (solid_verb command), ?_⟩
  rintro ⟨first, rest, rfl, hfirst⟩
  exact upperVerb_of_verb hfirst rest ▸ List.prefix_append _ _

theorem Begins.unique (h : command.Begins line) (h' : other.Begins line) : command = other := by
  rcases List.prefix_or_prefix_of_prefix (isPrefix_upperVerb_iff.2 h)
    (isPrefix_upperVerb_iff.2 h') with hverb | hverb
  · exact eq_of_verb_isPrefix hverb
  · exact (eq_of_verb_isPrefix hverb).symm

/-- The first command that fits is the only one. -/
theorem find?_table_iff :
    (table.find? fun command => command.verb.isPrefixOf (upperVerb line)) = some command ↔
      command ∈ table ∧ command.Begins line := by
  have hfits : ∀ {found : Command},
      (table.find? fun command => command.verb.isPrefixOf (upperVerb line)) = some found →
        found.Begins line := fun h => by
    have hprefix := List.find?_some h
    exact isPrefix_upperVerb_iff.1 (List.isPrefixOf_iff_prefix.1 hprefix)
  refine ⟨fun h => ⟨List.mem_of_find?_eq_some h, hfits h⟩, fun ⟨hmem, hbegins⟩ => ?_⟩
  have hprefix := List.isPrefixOf_iff_prefix.2 (isPrefix_upperVerb_iff.2 hbegins)
  obtain ⟨found, hfound⟩ := Option.isSome_iff_exists.1 <|
    (List.find?_isSome (p := fun command => command.verb.isPrefixOf (upperVerb line))).2
      ⟨command, hmem, hprefix⟩
  rw [hfound, (hfits hfound).unique hbegins]

theorem find?_eq_some_iff : find? (upperVerb line) extensions = some command ↔
    command ∈ enabled extensions ∧ command.Begins line :=
  find?_table_iff

theorem find?_eq_none_iff : find? (upperVerb line) extensions = none ↔
    ∀ command ∈ enabled extensions, ¬ command.Begins line := by
  simp only [Option.eq_none_iff_forall_ne_some, ne_eq, find?_eq_some_iff, not_and]

/-- The order in which commands are looked up makes no difference. -/
theorem find?_of_forall_mem_iff (h : ∀ command, command ∈ table ↔ command ∈ enabled extensions) :
    (table.find? fun command => command.verb.isPrefixOf (upperVerb line)) =
      find? (upperVerb line) extensions :=
  Option.ext fun command => by rw [find?_table_iff, find?_eq_some_iff, h]

theorem argument_of_verb (h : Text.asciiUpper first = command.verb) (rest : Text) :
    command.argument (upperVerb (first ++ rest)) = (upperVerb rest).dropWhile Text.isPadding := by
  rw [argument, upperVerb_of_verb h, List.drop_left]

theorem argument_of_padding (h : Text.asciiUpper first = command.verb)
    (hrest : ∀ c ∈ rest.head?, Text.isPadding c = true) :
    command.argument (upperVerb (first ++ rest)) = rest.dropWhile Text.isPadding := by
  rw [argument_of_verb h, upperVerb_eq_self fun c hc => Text.isBlank_of_isPadding (hrest c hc)]

theorem upperVerb?_eq (line : Text) : upperVerb? line = some (upperVerb line) := by
  have hsplit := Utf8.splitAt?_length (line.takeWhile (!Text.isBlank ·))
    (line.dropWhile (!Text.isBlank ·))
  rw [List.takeWhile_append_dropWhile, ← Utf8.index_eq] at hsplit
  rw [upperVerb?, hsplit]
  rfl

theorem argument?_eq (h : command.Begins line) :
    command.argument? (upperVerb line) = some (command.argument (upperVerb line)) := by
  obtain ⟨first, rest, rfl, hfirst⟩ := h
  rw [argument?, upperVerb_of_verb hfirst, Utf8.splitAt?_length, ← upperVerb_of_verb hfirst,
    argument_of_verb hfirst]
  rfl

end Verbs

end Command

/-! ## Dispatch -/

namespace Dispatch

/-- Answers a line that names no command, and shows it in the answer. -/
def refuse (session : Session) (shown : Text) : Program (Status × Session) := do
  session.say 500 shown
  let session ← touch session
  return (.failure "unknown command", session)

/-- Carries out a command, unless it may not run. -/
def obey (setting : Setting) (session : Session) (command : Command) (argument : Text) :
    Program (Status × Session) :=
  match verdict setting session command with
  | .notLoggedIn => do
    session.say 530 "Please login with USER and PASS."
    return (.failure "not logged in", session)
  | .denied => do
    session.say 550 "Permission denied."
    return (.failure "permission denied", session)
  | .ignored => return (.success, session)
  | .run => do
    let (status, session) ← command.run setting session argument
    let session ← touch session
    return (status, session)

section Dispatch

variable {setting : Setting} {session : Session} {command : Command} {raw token token' : Text}

theorem dispatch_of_begins (henabled : command ∈ Command.enabled setting.config.extensions)
    (h : command.Begins raw) : dispatch setting session raw =
      obey setting session command (command.argument (Command.upperVerb raw)) := by
  simp only [dispatch, Command.find?_eq_some_iff.2 ⟨henabled, h⟩]
  rfl

theorem dispatch_of_none
    (h : ∀ command ∈ Command.enabled setting.config.extensions, ¬ command.Begins raw) :
    dispatch setting session raw = refuse session raw := by
  simp only [dispatch, Command.find?_eq_none_iff.2 h]
  rfl

/-- The line is read in upper case only, except where it is shown to the client. -/
theorem dispatch_eq_or_refuse (h : Command.upperVerb token = Command.upperVerb token') :
    dispatch setting session token = dispatch setting session token' ∨
      dispatch setting session token = refuse session token ∧
        dispatch setting session token' = refuse session token' := by
  cases hfind : Command.find? (Command.upperVerb token') setting.config.extensions with
  | none =>
    exact .inr ⟨dispatch_of_none (Command.find?_eq_none_iff.1 (h ▸ hfind)),
      dispatch_of_none (Command.find?_eq_none_iff.1 hfind)⟩
  | some command =>
    obtain ⟨henabled, hbegins⟩ := Command.find?_eq_some_iff.1 hfind
    have hbegins' := (Command.find?_eq_some_iff.1 (h ▸ hfind)).2
    exact .inl (by
      rw [dispatch_of_begins henabled hbegins, dispatch_of_begins henabled hbegins', h])

/-- How the lines of a session are understood. -/
structure LooksUp (setting : Setting) (session : Session) : Prop where
  /-- A line names the available command by whose verb it begins. -/
  found (raw : Text) (command : Command) :
    Command.find? (Command.upperVerb raw) setting.config.extensions = some command ↔
      command ∈ Command.enabled setting.config.extensions ∧ command.Begins raw
  /-- There is one at most. -/
  unique (raw : Text) (command other : Command) :
    command.Begins raw → other.Begins raw → command = other
  /-- It does not depend on the order in which commands are looked up. -/
  anyOrder (raw : Text) (table : List Command) :
    (∀ command, command ∈ table ↔ command ∈ Command.enabled setting.config.extensions) →
      (table.find? fun command => command.verb.isPrefixOf (Command.upperVerb raw)) =
        Command.find? (Command.upperVerb raw) setting.config.extensions
  /-- That command and no other is carried out. -/
  obeyed (raw : Text) (command : Command) :
    command ∈ Command.enabled setting.config.extensions → command.Begins raw →
      dispatch setting session raw =
        obey setting session command (command.argument (Command.upperVerb raw))
  /-- Nothing is carried out for a line that names none. -/
  refused (raw : Text) :
    (∀ command ∈ Command.enabled setting.config.extensions, ¬ command.Begins raw) →
      dispatch setting session raw = refuse session raw
  /-- If the verb ends with the line, or at a space or a tab, its argument is what the client
  wrote. -/
  argument (command : Command) (first rest : Text) :
    command ∈ Command.enabled setting.config.extensions →
      Text.asciiUpper first = command.verb → (∀ c ∈ rest.head?, Text.isPadding c = true) →
        dispatch setting session (first ++ rest) =
          obey setting session command (rest.dropWhile Text.isPadding)
  /-- Upper and lower case in the first token are told apart only where it is shown. -/
  caseless (token token' rest : Text) :
    (∀ c ∈ token, Text.isBlank c = false) → Text.asciiUpper token = Text.asciiUpper token' →
      dispatch setting session (token ++ rest) = dispatch setting session (token' ++ rest) ∨
        dispatch setting session (token ++ rest) = refuse session (token ++ rest) ∧
          dispatch setting session (token' ++ rest) = refuse session (token' ++ rest)
  /-- Where the line is cut, a character ends. -/
  sliced (raw : Text) : Command.upperVerb? raw = some (Command.upperVerb raw) ∧
    ∀ command : Command, command.Begins raw →
      command.argument? (Command.upperVerb raw) = some (command.argument (Command.upperVerb raw))

/-- Every line names at most one command, and what the command is given is the rest of the line. -/
theorem lines_looked_up (setting : Setting) (session : Session) : LooksUp setting session where
  found _ _ := Command.find?_eq_some_iff
  unique _ _ _ := Command.Begins.unique
  anyOrder _ _ := Command.find?_of_forall_mem_iff
  obeyed _ _ := dispatch_of_begins
  refused _ := dispatch_of_none
  argument _ first rest henabled hfirst hrest := by
    rw [dispatch_of_begins henabled ⟨first, rest, rfl, hfirst⟩,
      Command.argument_of_padding hfirst hrest]
  caseless token token' rest hsolid htoken := by
    have hsolid' : ∀ c ∈ token', Text.isBlank c = false :=
      Command.isBlank_of_asciiUpper fun c hc => by
        obtain ⟨d, hd, hupper⟩ := List.mem_map.1 (htoken ▸ hc)
        rw [← hupper, Text.isBlank_toUpper, hsolid d hd]
    refine dispatch_eq_or_refuse ?_
    rw [Command.upperVerb_append hsolid, Command.upperVerb_append hsolid', htoken]
  sliced raw := ⟨Command.upperVerb?_eq raw, fun _ => Command.argument?_eq⟩

/-- A name keeps its letters and the no-break space in front of them. -/
theorem lines_looked_up_retr : ∀ setting session,
    dispatch setting session "rEtR \t\u00a0Übung a.txt" =
        obey setting session .retr "\u00a0Übung a.txt" ∧
      dispatch setting session "RETR \t\u00a0Übung a.txt" =
        obey setting session .retr "\u00a0Übung a.txt" := fun setting session => by
  have henabled : ∀ extensions, Command.retr ∈ Command.enabled extensions := by decide
  have hpadding : ∀ c ∈ (" \t\u00a0Übung a.txt" : Text).head?, Text.isPadding c = true := by
    rintro c ⟨⟩
    rfl
  have hname : (" \t\u00a0Übung a.txt" : Text).dropWhile Text.isPadding = "\u00a0Übung a.txt" := by
    decide
  have hlower : ("rEtR \t\u00a0Übung a.txt" : Text) =
      "rEtR".toList ++ " \t\u00a0Übung a.txt".toList := by decide
  have hupper : ("RETR \t\u00a0Übung a.txt" : Text) =
      "RETR".toList ++ " \t\u00a0Übung a.txt".toList := by decide
  have hlooks := lines_looked_up setting session
  have hobeys := congrArg (obey setting session .retr) hname
  exact ⟨((congrArg (dispatch setting session) hlower).trans
      (hlooks.argument .retr _ _ (henabled _) (by decide) hpadding)).trans hobeys,
    ((congrArg (dispatch setting session) hupper).trans
      (hlooks.argument .retr _ _ (henabled _) (by decide) hpadding)).trans hobeys⟩

end Dispatch

end Dispatch

end Ftp
