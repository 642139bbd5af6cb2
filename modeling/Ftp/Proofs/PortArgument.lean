import Mathlib.Data.List.Forall2
import Mathlib.Data.List.TakeWhile
import Ftp.Proofs.Confinement
import Ftp.Proofs.Transcript

/-!
# Ports in commands and replies

A port is spelled in the same way by the client that names its own and by the server that announces
a listener: as the last two of six numbers with commas between them. What the server writes reads
back. What a client may write is a little more: a plus sign and leading zeros in front of a number,
and white space around it.

* `Text.strip_eq_iff`: what is left of a text without the white space around it;
* `Decimal.unsigned?_eq_some_iff`, `Command.portField?_eq_some_iff`,
  `Command.dataPort?_eq_some_iff`: which texts are a number, a field and an argument;
* `Reply.isNumberList_passiveAddress`: the numbers in the reply;
* `ports_exchanged`: what is announced is read, and what is not read changes nothing.
-/

namespace Ftp

open Program

/-! ## White space -/

namespace Text

/-- White space at both ends is all that the text has more than `core`, which neither begins nor
ends with any. -/
structure Trims (s core : Text) : Prop where
  around : ∃ before after, s = before ++ core ++ after ∧ (∀ c ∈ before, isBlank c = true) ∧
    ∀ c ∈ after, isBlank c = true
  head : ∀ c ∈ core.head?, isBlank c = false
  last : ∀ c ∈ core.getLast?, isBlank c = false

section Trims

variable {s core : Text} {p : Char → Bool}

theorem eq_false_of_mem_head?_dropWhile {c : Char} (h : c ∈ (s.dropWhile p).head?) :
    p c = false := by
  have hhead := List.head?_dropWhile_not p s
  rwa [Option.mem_def.1 h] at hhead

theorem dropEnd_append_takeWhile (p : Char → Bool) (s : Text) :
    dropEnd p s ++ (s.reverse.takeWhile p).reverse = s := by
  rw [dropEnd, ← List.reverse_append, List.takeWhile_append_dropWhile, List.reverse_reverse]

theorem trims_strip (s : Text) : Trims s (strip isBlank s) := by
  have hrest := dropEnd_append_takeWhile isBlank (s.dropWhile isBlank)
  refine ⟨⟨s.takeWhile isBlank, ((s.dropWhile isBlank).reverse.takeWhile isBlank).reverse, ?_,
    fun c => List.mem_takeWhile_imp, fun c hc => ?_⟩, fun c hc => ?_, fun c hc => ?_⟩
  · rw [List.append_assoc, strip, hrest, List.takeWhile_append_dropWhile]
  · exact List.mem_takeWhile_imp (List.mem_reverse.1 hc)
  · -- The text that is left begins as it did before its end was dropped.
    refine eq_false_of_mem_head?_dropWhile (s := s) ?_
    rw [strip] at hc
    rw [← hrest, List.head?_append, Option.mem_def.1 hc]
    rfl
  · rw [strip, dropEnd, List.getLast?_reverse] at hc
    exact eq_false_of_mem_head?_dropWhile hc

theorem dropWhile_of_head? {rest : Text} (hne : core ≠ []) (h : ∀ c ∈ core.head?, p c = false) :
    (core ++ rest).dropWhile p = core ++ rest := by
  cases core with
  | nil => exact absurd rfl hne
  | cons c core => exact List.dropWhile_cons_of_neg (by simp [h c rfl])

theorem Trims.strip_eq (h : Trims s core) : strip isBlank s = core := by
  obtain ⟨⟨before, after, rfl, hbefore, hafter⟩, hhead, hlast⟩ := h
  rw [strip, List.append_assoc, List.dropWhile_append_of_pos hbefore]
  by_cases hcore : core = []
  · rw [hcore, List.nil_append, List.dropWhile_eq_nil_iff.2 hafter]
    rfl
  · rw [dropWhile_of_head? hcore hhead, dropEnd, List.reverse_append,
      List.dropWhile_append_of_pos fun c hc => hafter c (List.mem_reverse.1 hc)]
    have hrest : (core.reverse ++ []).dropWhile isBlank = core.reverse ++ [] :=
      dropWhile_of_head? (List.reverse_ne_nil_iff.2 hcore) (by rwa [List.head?_reverse])
    rw [List.append_nil] at hrest
    rw [hrest, List.reverse_reverse]

/-- There is one way to take the white space away. -/
theorem strip_eq_iff : strip isBlank s = core ↔ Trims s core :=
  ⟨fun h => h ▸ trims_strip s, Trims.strip_eq⟩

theorem trims_self (h : ∀ c ∈ s, isBlank c = false) : Trims s s :=
  ⟨⟨[], [], by simp, nofun, nofun⟩, fun c hc => h c (List.mem_of_mem_head? hc),
    fun c hc => h c (List.mem_of_mem_getLast? hc)⟩

end Trims

theorem mem_join {sep c : Char} {pieces : List Text} (h : c ∈ join sep pieces) :
    c = sep ∨ ∃ piece ∈ pieces, c ∈ piece := by
  induction pieces using join.induct with
  | case1 => cases h
  | case2 piece => exact .inr ⟨piece, List.mem_singleton_self _, h⟩
  | case3 piece pieces _ ih =>
    rw [join] at h
    · rcases List.mem_append.1 h with h | h
      · exact .inr ⟨piece, List.mem_cons_self, h⟩
      rcases List.mem_cons.1 h with h | h
      · exact .inl h
      · rcases ih h with h | ⟨other, hother, hmem⟩
        · exact .inl h
        · exact .inr ⟨other, List.mem_cons_of_mem _ hother, hmem⟩
    · assumption

/-- What stands between the first parenthesis that opens and the first one after it that closes. -/
def parenthesized (s : Text) : Text :=
  (s.dropWhile (· ≠ '(')).tail.takeWhile (· ≠ ')')

theorem parenthesized_eq {before inner after : Text} (hbefore : '(' ∉ before)
    (hinner : ')' ∉ inner) : parenthesized (before ++ '(' :: inner ++ ')' :: after) = inner := by
  rw [parenthesized, List.append_assoc, List.cons_append, dropWhile_ne_append hbefore,
    List.tail_cons, takeWhile_ne_append hinner]

end Text

/-! ## Numbers -/

namespace Decimal

/-- One or more decimal digits, after a plus sign if there is one, and the number that they
stand for. -/
inductive IsUnsigned : Text → Nat → Prop
  | plain {digits : Text} (ne_nil : digits ≠ []) (isDigit : ∀ c ∈ digits, c.isDigit = true) :
    IsUnsigned digits (number digits)
  | signed {digits : Text} (ne_nil : digits ≠ []) (isDigit : ∀ c ∈ digits, c.isDigit = true) :
    IsUnsigned ('+' :: digits) (number digits)

theorem unsigned?_eq_some_iff {s : Text} {n : Nat} : unsigned? s = some n ↔ IsUnsigned s n := by
  unfold unsigned?
  split
  · rw [number?_eq_some_iff]
    constructor
    · rintro ⟨hne, hdigits, rfl⟩
      exact .signed hne hdigits
    · intro h
      cases h with
      | plain _ hdigits => exact absurd (hdigits '+' List.mem_cons_self) (by decide)
      | signed hne hdigits => exact ⟨hne, hdigits, rfl⟩
  · rename_i hplus
    rw [number?_eq_some_iff]
    constructor
    · rintro ⟨hne, hdigits, rfl⟩
      exact .plain hne hdigits
    · intro h
      cases h with
      | plain hne hdigits => exact ⟨hne, hdigits, rfl⟩
      | signed => exact absurd rfl (hplus _)

theorem isBlank_of_isDigit {c : Char} (h : c.isDigit = true) : Text.isBlank c = false := by
  obtain ⟨hlow, hhigh⟩ : 48 ≤ c.toNat ∧ c.toNat ≤ 57 := Char.isDigit_iff_toNat.1 h
  exact Text.isBlank_eq_false_of_toNat hlow (by omega)

theorem isUnsigned_digits (n : Nat) : IsUnsigned (digits n) n := by
  have h := IsUnsigned.plain (digits_ne_nil n) fun _ => isDigit_of_mem_digits
  rwa [number_digits] at h

end Decimal

/-! ## Arguments -/

theorem mapM_eq_some_iff {α β : Type} {f : α → Option β} {xs : List α} {ys : List β} :
    xs.mapM f = some ys ↔ List.Forall₂ (fun x y => f x = some y) xs ys := by
  induction xs generalizing ys with
  | nil => simp [eq_comm]
  | cons x xs ih =>
    simp only [List.mapM_cons, Option.bind_eq_bind, Option.bind_eq_some_iff,
      List.forall₂_cons_left_iff, ih]
    constructor
    · rintro ⟨y, hy, rest, hrest, hcons⟩
      cases hcons
      exact ⟨y, rest, hy, hrest, rfl⟩
    · rintro ⟨y, rest, hy, hrest, rfl⟩
      exact ⟨y, hy, rest, hrest, rfl⟩

namespace Command

/-- A number that fits an octet, with white space around it. -/
structure IsPortField (field : Text) (n : Nat) : Prop where
  spelled : ∃ text, Text.Trims field text ∧ Decimal.IsUnsigned text n
  le : n ≤ 255

/-- Fields with commas between them, each of which spells a number, with white space around
them all. -/
def IsNumberList (argument : Text) (numbers : List Nat) : Prop :=
  ∃ core fields, Text.Trims argument core ∧ fields ≠ [] ∧ core = Text.join ',' fields ∧
    (∀ field ∈ fields, ',' ∉ field) ∧ List.Forall₂ IsPortField fields numbers

/-- Six numbers, of which the last two are the high and the low octet of a port. There is no port
zero. -/
structure NamesPort (argument : Text) (port : UInt16) : Prop where
  spelled : ∃ a b c d high low, IsNumberList argument [a, b, c, d, high, low] ∧
    port.toNat = 256 * high + low
  ne_zero : port ≠ 0

section Reading

variable {field argument : Text} {n : Nat} {numbers : List Nat} {port : UInt16}

theorem portField?_eq_some_iff : portField? field = some n ↔ IsPortField field n := by
  have hspelled : Decimal.unsigned? (Text.strip Text.isBlank field) = some n ↔
      ∃ text, Text.Trims field text ∧ Decimal.IsUnsigned text n := by
    simp only [Decimal.unsigned?_eq_some_iff, ← Text.strip_eq_iff, exists_eq_left']
  unfold portField?
  constructor
  · intro h
    split at h
    · rename_i m hm
      split at h
      · rename_i hle
        cases h
        exact ⟨hspelled.1 hm, hle⟩
      · cases h
    · cases h
  · rintro ⟨hfield, hle⟩
    simp only [hspelled.2 hfield, if_pos hle]

theorem mapM_portField?_eq_some_iff :
    (Text.split ',' (Text.strip Text.isBlank argument)).mapM portField? = some numbers ↔
      IsNumberList argument numbers := by
  simp only [mapM_eq_some_iff, portField?_eq_some_iff]
  constructor
  · intro h
    exact ⟨_, _, Text.trims_strip argument, Text.split_ne_nil _ _, (Text.join_split _ _).symm,
      fun _ => Text.not_mem_of_mem_split, h⟩
  · rintro ⟨core, fields, htrims, hne, rfl, hcommas, hfields⟩
    rwa [htrims.strip_eq, Text.split_join hne hcommas]

/-- An argument is read as one list of numbers only. -/
theorem IsNumberList.unique {others : List Nat} (h : IsNumberList argument numbers)
    (h' : IsNumberList argument others) : others = numbers :=
  Option.some.inj
    ((mapM_portField?_eq_some_iff.2 h').symm.trans (mapM_portField?_eq_some_iff.2 h))

theorem IsNumberList.le (h : IsNumberList argument numbers) : ∀ n ∈ numbers, n ≤ 255 := by
  obtain ⟨core, fields, -, -, -, -, hfields⟩ := h
  induction hfields with
  | nil => exact List.forall_mem_nil _
  | cons hfield _ ih => exact List.forall_mem_cons.2 ⟨hfield.le, ih⟩

theorem dataPort?_eq_some_iff : dataPort? argument = some port ↔ NamesPort argument port := by
  unfold dataPort?
  constructor
  · intro h
    split at h
    · rename_i a b c d high low hnumbers
      have hlist := mapM_portField?_eq_some_iff.1 hnumbers
      have hhigh := hlist.le high (by simp)
      have hlow := hlist.le low (by simp)
      have hport : (UInt16.ofNat (256 * high + low)).toNat = 256 * high + low := by
        rw [UInt16.toNat_ofNat']
        omega
      split at h
      · cases h
      · rename_i hne
        cases h
        refine ⟨⟨a, b, c, d, high, low, hlist, hport⟩, fun hzero => hne ?_⟩
        rw [← hport, hzero]
        rfl
    · cases h
  · rintro ⟨⟨a, b, c, d, high, low, hlist, hport⟩, hne⟩
    have hsum : 256 * high + low ≠ 0 := fun hzero =>
      hne (UInt16.toNat_inj.1 (hport.trans hzero))
    simp only [mapM_portField?_eq_some_iff.2 hlist, if_neg hsum]
    rw [← hport, UInt16.ofNat_toNat]

end Reading

end Command

/-! ## Replies -/

namespace Reply

/-- The numbers by which an endpoint is announced. -/
def numbers (endpoint : Endpoint) : List Nat :=
  endpoint.ip.octets.map UInt8.toNat ++ [endpoint.port.toNat / 256, endpoint.port.toNat % 256]

theorem le_of_mem_numbers {endpoint : Endpoint} {n : Nat} (h : n ∈ numbers endpoint) :
    n ≤ 255 := by
  have hport := endpoint.port.toNat_lt
  rcases List.mem_append.1 h with h | h
  · obtain ⟨octet, -, rfl⟩ := List.mem_map.1 h
    exact Nat.le_of_lt_succ octet.toNat_lt
  · simp only [List.mem_cons, List.not_mem_nil, or_false] at h
    omega

theorem isPortField_digits {n : Nat} (h : n ≤ 255) :
    Command.IsPortField (Decimal.digits n) n :=
  ⟨⟨_, Text.trims_self fun _ hc => Decimal.isBlank_of_isDigit (Decimal.isDigit_of_mem_digits hc),
    Decimal.isUnsigned_digits n⟩, h⟩

/-- Between the parentheses there are digits and commas. -/
theorem eq_or_isDigit_of_mem {numbers : List Nat} {c : Char}
    (h : c ∈ Text.join ',' (numbers.map Decimal.digits)) : c = ',' ∨ c.isDigit = true := by
  refine (Text.mem_join h).imp_right fun ⟨piece, hpiece, hmem⟩ => ?_
  obtain ⟨n, -, rfl⟩ := List.mem_map.1 hpiece
  exact Decimal.isDigit_of_mem_digits hmem

theorem passiveAddress_eq (endpoint : Endpoint) :
    passiveAddress endpoint = "Entering Passive Mode ".toList ++
      '(' :: Text.join ',' ((numbers endpoint).map Decimal.digits) ++ [')'] := by
  have hopen : "Entering Passive Mode (".toList = "Entering Passive Mode ".toList ++ ['('] := by
    decide
  rw [List.append_cons "Entering Passive Mode ".toList, ← hopen]
  rfl

theorem parenthesized_passiveAddress (endpoint : Endpoint) :
    (passiveAddress endpoint).parenthesized =
      Text.join ',' ((numbers endpoint).map Decimal.digits) := by
  rw [passiveAddress_eq]
  exact Text.parenthesized_eq (by decide) fun hmem =>
    absurd (eq_or_isDigit_of_mem hmem) (by decide)

/-- The reply holds its numbers. -/
theorem isNumberList_passiveAddress (endpoint : Endpoint) :
    Command.IsNumberList (passiveAddress endpoint).parenthesized (numbers endpoint) := by
  rw [parenthesized_passiveAddress]
  refine ⟨_, _, Text.trims_self fun c hc => ?_, by simp [numbers], rfl, fun piece hpiece hmem => ?_,
    ?_⟩
  · rcases eq_or_isDigit_of_mem hc with rfl | hdigit
    · decide
    · exact Decimal.isBlank_of_isDigit hdigit
  · obtain ⟨n, -, rfl⟩ := List.mem_map.1 hpiece
    exact absurd (Decimal.isDigit_of_mem_digits hmem) (by decide)
  · rw [List.forall₂_map_left_iff, List.forall₂_same]
    exact fun n hn => isPortField_digits (le_of_mem_numbers hn)

theorem dataPort?_passiveAddress (endpoint : Endpoint) :
    Command.dataPort? (passiveAddress endpoint).parenthesized =
      if endpoint.port = 0 then none else some endpoint.port := by
  obtain ⟨⟨a, b, c, d⟩, port⟩ := endpoint
  have hlist := isNumberList_passiveAddress ⟨⟨a, b, c, d⟩, port⟩
  have hport : port.toNat = 256 * (port.toNat / 256) + port.toNat % 256 :=
    (Nat.div_add_mod port.toNat 256).symm
  split
  · rename_i hzero
    rw [Option.eq_none_iff_forall_ne_some]
    intro other hother
    obtain ⟨⟨_, _, _, _, high, low, hlist', hother⟩, hne⟩ := Command.dataPort?_eq_some_iff.1 hother
    cases hlist.unique hlist'
    exact hne (UInt16.toNat_inj.1 (hother.trans (hport.symm.trans (congrArg UInt16.toNat hzero))))
  · rename_i hne
    exact Command.dataPort?_eq_some_iff.2 ⟨⟨_, _, _, _, _, _, hlist, hport⟩, hne⟩

end Reply

/-! ## The command -/

section Commands

variable {argument : Text} {port : UInt16} {setting : Setting} {session : Session}

/-- An argument that names no port is answered, and that is all. -/
theorem plays_port_refused (h : Command.dataPort? argument = none) :
    (Command.run .port setting session argument).Plays
      [said session.control 501 "Illegal PORT command."]
      (.failure "Illegal PORT command.", session) := by
  simp only [Command.run, Action.port, h]
  exact plays_fail ..

theorem returns_port (h : Command.dataPort? argument = some port) :
    (Command.run .port setting session argument).Returns fun result =>
      result.1 = .success ∧ result.2.remoteDataPort = port ∧ result.2.passive = false := by
  simp only [Command.run, Action.port, h, returns_bind]
  exact returns_of_forall (fun _ => (returns_succeed _ _).2 ⟨rfl, rfl, rfl⟩) _

end Commands

/-- The server announces an endpoint by the four octets of its address and the two of its port, and
reads the port back from them. As an argument of `PORT` it reads what the grammar allows and nothing
else, and it takes no notice of an argument that names no port. -/
theorem ports_exchanged :
    (∀ endpoint : Endpoint,
      (∀ numbers, Command.IsNumberList (Reply.passiveAddress endpoint).parenthesized numbers ↔
        numbers = endpoint.ip.octets.map UInt8.toNat ++
          [endpoint.port.toNat / 256, endpoint.port.toNat % 256]) ∧
      Command.dataPort? (Reply.passiveAddress endpoint).parenthesized =
        if endpoint.port = 0 then none else some endpoint.port) ∧
    (∀ argument port, Command.dataPort? argument = some port ↔ Command.NamesPort argument port) ∧
    (∀ argument port, Command.NamesPort argument port → ∀ setting session,
      (Command.run .port setting session argument).Returns fun result =>
        result.1 = .success ∧ result.2.remoteDataPort = port ∧ result.2.passive = false) ∧
    ∀ argument, (∀ port, ¬ Command.NamesPort argument port) →
      Command.dataPort? argument = none ∧ ∀ setting session,
        (Command.run .port setting session argument).Plays
          [said session.control 501 "Illegal PORT command."]
          (.failure "Illegal PORT command.", session) := by
  refine ⟨fun endpoint => ⟨fun numbers => ⟨?_, ?_⟩, Reply.dataPort?_passiveAddress endpoint⟩,
    fun _ _ => Command.dataPort?_eq_some_iff,
    fun _ _ hnames _ _ => returns_port (Command.dataPort?_eq_some_iff.2 hnames),
    fun argument hnone => ?_⟩
  · exact (Reply.isNumberList_passiveAddress endpoint).unique
  · rintro rfl
    exact Reply.isNumberList_passiveAddress endpoint
  · have hread : Command.dataPort? argument = none := Option.eq_none_iff_forall_ne_some.2
      fun port hport => hnone port (Command.dataPort?_eq_some_iff.1 hport)
    exact ⟨hread, fun _ _ => plays_port_refused hread⟩

/-- Blanks, plus signs and leading zeros are read past, but an empty field is not. -/
theorem ports_exchanged_loose :
    Command.NamesPort "\u20031,2,3,4 ,\t+0195,+0080\r".toList 50000 ∧
      (∀ setting session,
        (Command.run .port setting session "\u20031,2,3,4 ,\t+0195,+0080\r".toList).Returns
          fun result => result.1 = .success ∧ result.2.remoteDataPort = 50000 ∧
            result.2.passive = false) ∧
      (∀ port, ¬ Command.NamesPort "1,2,3,4,195,".toList port) ∧
      ∀ setting session, (Command.run .port setting session "1,2,3,4,195,".toList).Plays
        [said session.control 501 "Illegal PORT command."]
        (.failure "Illegal PORT command.", session) := by
  have hloose : Command.NamesPort "\u20031,2,3,4 ,\t+0195,+0080\r".toList 50000 :=
    (ports_exchanged.2.1 _ _).1 (by decide)
  have hunread : Command.dataPort? "1,2,3,4,195,".toList = none := by decide
  have hempty : ∀ port, ¬ Command.NamesPort "1,2,3,4,195,".toList port := fun port hport =>
    Option.some_ne_none port (((ports_exchanged.2.1 _ _).2 hport).symm.trans hunread)
  exact ⟨hloose, ports_exchanged.2.2.1 _ _ hloose, hempty, (ports_exchanged.2.2.2 _ hempty).2⟩

end Ftp
