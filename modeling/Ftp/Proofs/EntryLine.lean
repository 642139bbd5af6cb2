import Mathlib.Tactic.IntervalCases
import Ftp.Listing.Line
import Ftp.Proofs.PortArgument

/-!
# Reading the lines of a listing

A client has nothing but the lines that it is sent, and names may hold whatever stands between the
parts of a line. Here are readers for both kinds of line. The first space in a line of facts is the
one in front of the name. A long line has eight cells with spaces between them, however wide they
grow, and the name behind one more space.

* `Text.columns_row`: cells are read back from a row of them;
* `Decimal.fixed?_zeroPadded`: so are numbers of known widths without anything between them;
* `Listing.readFacts?_factLine`, `Listing.readLong?_longLine`: what the lines say about an entry.
-/

namespace Ftp

/-! ## Columns -/

namespace Text

/-- What stands between the spaces that the text begins with and the next one, and what follows that
one. -/
def column (s : Text) : Text × Text :=
  let inner := s.dropWhile (· = ' ')
  (inner.takeWhile (· ≠ ' '), (inner.dropWhile (· ≠ ' ')).tail)

/-- The first cells of a line, and what follows the space behind them. -/
def columns : Nat → Text → List Text × Text
  | 0, s => ([], s)
  | n + 1, s =>
    let (cell, rest) := column s
    let (cells, last) := columns n rest
    (cell :: cells, last)

/-- Cells with so many spaces in front of each and one behind it. -/
def row : List (Nat × Text) → Text → Text
  | [], last => last
  | (spaces, cell) :: cells, last => List.replicate spaces ' ' ++ cell ++ ' ' :: row cells last

/-- The text stands for itself in a row. -/
structure IsCell (cell : Text) : Prop where
  ne_nil : cell ≠ []
  solid : ' ' ∉ cell

theorem column_append {cell : Text} (h : IsCell cell) (spaces : Nat) (rest : Text) :
    column (List.replicate spaces ' ' ++ cell ++ ' ' :: rest) = (cell, rest) := by
  have hdrop : (List.replicate spaces ' ' ++ cell ++ ' ' :: rest).dropWhile (· = ' ') =
      cell ++ ' ' :: rest := by
    obtain ⟨c, cell', rfl⟩ := List.exists_cons_of_ne_nil h.ne_nil
    have hc : c ≠ ' ' := fun heq => h.solid (heq ▸ List.mem_cons_self)
    rw [List.append_assoc, List.dropWhile_append_of_pos fun c hmem => by
        simp [List.eq_of_mem_replicate hmem],
      List.cons_append, List.dropWhile_cons_of_neg (by simpa using hc)]
  simp only [column, hdrop, takeWhile_ne_append h.solid, dropWhile_ne_append h.solid,
    List.tail_cons]

theorem columns_row {cells : List (Nat × Text)} (h : ∀ cell ∈ cells, IsCell cell.2)
    (last : Text) : columns cells.length (row cells last) = (cells.map Prod.snd, last) := by
  induction cells with
  | nil => rfl
  | cons cell cells ih =>
    rw [List.length_cons, columns, row, column_append (h cell List.mem_cons_self)]
    simp only []
    rw [ih fun cell hmem => h cell (List.mem_cons_of_mem _ hmem)]
    rfl

section Padding

variable (width spaces : Nat) (cell next : Text) (cells : List (Nat × Text)) (last : Text)

theorem padLeft_append_row : padLeft width cell ++ ' ' :: row cells last =
    row ((width - cell.length, cell) :: cells) last :=
  rfl

/-- Spaces that follow a cell stand in front of the next one. -/
theorem padRight_append_row : padRight width cell ++ ' ' :: row ((spaces, next) :: cells) last =
    row ((0, cell) :: (width - cell.length + spaces, next) :: cells) last := by
  have hspaces : ∀ rest : Text, List.replicate (width - cell.length) ' ' ++ ' ' :: rest =
      ' ' :: (List.replicate (width - cell.length) ' ' ++ rest) := fun rest => by
    rw [List.append_cons, ← List.replicate_succ', List.replicate_succ, List.cons_append]
  simp only [padRight, row, List.append_assoc, hspaces, List.replicate_zero, List.nil_append,
    ← List.replicate_append_replicate]

end Padding

end Text

/-! ## Numbers -/

namespace Decimal

/-- Reads numbers of so many digits each, without anything between them. -/
def fixed? : List Nat → Text → Option (List Nat)
  | [], [] => some []
  | [], _ :: _ => none
  | width :: widths, s => do
    let n ← number? (s.take width)
    let numbers ← fixed? widths (s.drop width)
    some (n :: numbers)

theorem fixed?_zeroPadded {fields : List (Nat × Nat)}
    (h : ∀ field ∈ fields, 0 < field.1 ∧ field.2 < 10 ^ field.1) :
    fixed? (fields.map Prod.fst) (fields.flatMap fun field => zeroPadded field.1 field.2) =
      some (fields.map Prod.snd) := by
  induction fields with
  | nil => rfl
  | cons field fields ih =>
    obtain ⟨hwidth, hlt⟩ := h field List.mem_cons_self
    have hlength :=
      length_zeroPadded ((Nat.length_toDigits_le_iff (by decide) hwidth).2 hlt)
    rw [List.map_cons, List.flatMap_cons, fixed?, List.take_left' hlength, List.drop_left' hlength,
      number?_zeroPadded, ih fun field hmem => h field (List.mem_cons_of_mem _ hmem)]
    rfl

theorem isCell_digits (n : Nat) : Text.IsCell (digits n) where
  ne_nil := digits_ne_nil n
  solid hmem := Decimal.ne_of_isDigit (isDigit_of_mem_digits hmem) (by decide) rfl

theorem isCell_zeroPadded (width n : Nat) : Text.IsCell (zeroPadded width n) where
  ne_nil := zeroPadded_ne_nil width n
  solid hmem := Decimal.ne_of_isDigit (isDigit_of_mem_zeroPadded hmem) (by decide) rfl

end Decimal

/-! ## Dates -/

namespace DateTime

/-- A date on the calendar with a year of four digits, and a time that a clock may show. The clock
shows a second more in a minute with a leap second. -/
structure IsRegular (t : DateTime) : Prop where
  year : 0 ≤ t.year ∧ t.year ≤ 9999
  month : 1 ≤ t.month ∧ t.month ≤ 12
  day : 1 ≤ t.day ∧ t.day ≤ 31
  hour : t.hour < 24
  minute : t.minute < 60
  second : t.second ≤ 60

def monthNames : List Text :=
  ["Jan", "Feb", "Mar", "Apr", "May", "Jun", "Jul", "Aug", "Sep", "Oct", "Nov", "Dec"]

/-- The number of the month with this abbreviation. -/
def monthNumber? (name : Text) : Option Nat :=
  (monthNames.idxOf? name).map (· + 1)

/-- Reads a date without separators. -/
def ofStamp? (s : Text) : Option DateTime :=
  match Decimal.fixed? [4, 2, 2, 2, 2, 2] s with
  | some [year, month, day, hour, minute, second] => some ⟨year, month, day, hour, minute, second⟩
  | _ => none

variable {t : DateTime}

theorem IsRegular.monthName_eq (h : t.IsRegular) :
    t.monthName = monthNames.getD (t.month - 1) [] := by
  obtain ⟨hfirst, hlast⟩ := h.month
  unfold monthName
  interval_cases t.month <;> rfl

theorem monthNumber?_getD : ∀ month < 13, 1 ≤ month →
    monthNumber? (monthNames.getD (month - 1) []) = some month ∧
      monthNames.getD (month - 1) [] ≠ [] ∧ ' ' ∉ monthNames.getD (month - 1) [] := by
  decide

theorem IsRegular.monthNumber?_monthName (h : t.IsRegular) :
    monthNumber? t.monthName = some t.month := by
  rw [h.monthName_eq]
  exact (monthNumber?_getD t.month (Nat.lt_succ_of_le h.month.2) h.month.1).1

theorem IsRegular.isCell_monthName (h : t.IsRegular) : Text.IsCell t.monthName := by
  obtain ⟨-, hne, hsolid⟩ := monthNumber?_getD t.month (Nat.lt_succ_of_le h.month.2) h.month.1
  rw [h.monthName_eq]
  exact ⟨hne, hsolid⟩

theorem IsRegular.stamp_eq (h : t.IsRegular) : t.stamp =
    [(4, t.year.natAbs), (2, t.month), (2, t.day), (2, t.hour), (2, t.minute),
      (2, t.second)].flatMap fun field => Decimal.zeroPadded field.1 field.2 := by
  obtain ⟨hzero, hlast⟩ := h.year
  have hyear : fourDigitYear t.year = Decimal.zeroPadded 4 t.year.natAbs := by
    simp only [fourDigitYear, if_neg (Int.not_lt.2 hzero), if_neg (Int.not_lt.2 hlast)]
  simp only [stamp, hyear, List.flatMap_cons, List.flatMap_nil, List.append_nil, List.append_assoc]

theorem IsRegular.ofStamp?_stamp (h : t.IsRegular) : ofStamp? t.stamp = some t := by
  have hyear : ((t.year.natAbs : Nat) : Int) = t.year := Int.natAbs_of_nonneg h.year.1
  have hfits : ∀ field ∈ [(4, t.year.natAbs), (2, t.month), (2, t.day), (2, t.hour), (2, t.minute),
      (2, t.second)], 0 < field.1 ∧ field.2 < 10 ^ field.1 := by
    obtain ⟨hyear, hmonth, hday, hhour, hminute, hsecond⟩ := h
    simp
    omega
  have hread := Decimal.fixed?_zeroPadded hfits
  simp only [List.map_cons, List.map_nil] at hread
  rw [ofStamp?, h.stamp_eq]
  simp only [hread, hyear]

theorem isDigit_of_mem_stamp (h : t.IsRegular) {c : Char} (hc : c ∈ t.stamp) :
    c.isDigit = true := by
  rw [h.stamp_eq] at hc
  obtain ⟨field, -, hmem⟩ := List.mem_flatMap.1 hc
  exact Decimal.isDigit_of_mem_zeroPadded hmem

end DateTime

namespace Listing

/-! ## Facts -/

/-- What a line of facts tells about an entry. -/
structure Facts where
  kind : FileKind
  size : Nat
  modified : DateTime
  name : Text
  deriving DecidableEq, Repr

def typeFacts : List (Text × FileKind) :=
  [("file", .file), ("dir", .dir), ("OS.unix=slink", .link)]

/-- Reads the facts in front of the first space, each with a semicolon after it, and takes all that
follows the space for the name. -/
def readFacts? (line : Text) : Option Facts :=
  match Text.split ';' (line.takeWhile (· ≠ ' ')) with
  | [type, size, modify, _, _] => do
    let kind ← (Text.after? "Type=" type).bind fun name => List.lookup name typeFacts
    let size ← (Text.after? "Size=" size).bind Decimal.number?
    let modified ← (Text.after? "Modify=" modify).bind DateTime.ofStamp?
    some ⟨kind, size, modified, (line.dropWhile (· ≠ ' ')).tail⟩
  | _ => none

section Facts

variable {name : Text} {info : FileInfo}

/-- The facts between the semicolons. -/
def factTexts (name : Text) (info : FileInfo) : List Text :=
  ["Type=".toList ++ factKind name info.kind, "Size=".toList ++ Decimal.digits info.size,
    "Modify=".toList ++ info.modified.stamp, "Perm=r", []]

/-- A semicolon that begins a label ends the fact in front of it. -/
theorem join_facts {type size modify perm : Text} (kind digits stamp name : Text)
    {size' modify' perm' : Text} (hsize : size' = ';' :: size) (hmodify : modify' = ';' :: modify)
    (hperm : perm' = ';' :: (perm ++ [';', ' '])) :
    type ++ kind ++ size' ++ digits ++ modify' ++ stamp ++ perm' ++ name =
      Text.join ';' [type ++ kind, size ++ digits, modify ++ stamp, perm, []] ++ ' ' :: name := by
  subst hsize hmodify hperm
  simp only [Text.join, List.append_assoc, List.cons_append, List.nil_append]

theorem factLine_eq (name : Text) (info : FileInfo) :
    factLine name info = Text.join ';' (factTexts name info) ++ ' ' :: name :=
  join_facts _ _ _ _ (by decide) (by decide) (by decide)

theorem notMem_factKind {c : Char} (hname : name ≠ ['.', '.']) (h : c = ' ' ∨ c = ';')
    (kind : FileKind) : c ∉ factKind name kind := by
  simp only [factKind, if_neg hname]
  rcases h with rfl | rfl <;> cases kind <;> decide

/-- There is no space in the facts, and no semicolon but the ones that end them. -/
theorem notMem_of_mem_factTexts {c : Char} (hname : name ≠ ['.', '.'])
    (hmodified : info.modified.IsRegular) (h : c = ' ' ∨ c = ';') :
    ∀ text ∈ factTexts name info, c ∉ text := by
  have hc : c.isDigit = false := by rcases h with rfl | rfl <;> rfl
  have hdigits : c ∉ Decimal.digits info.size := fun hmem =>
    Decimal.ne_of_isDigit (Decimal.isDigit_of_mem_digits hmem) hc rfl
  have hstamp : c ∉ info.modified.stamp := fun hmem =>
    Decimal.ne_of_isDigit (DateTime.isDigit_of_mem_stamp hmodified hmem) hc rfl
  have hkind := notMem_factKind hname h info.kind
  have hlabels : c ∉ "Type=".toList ∧ c ∉ "Size=".toList ∧ c ∉ "Modify=".toList ∧
      c ∉ "Perm=r".toList := by
    rcases h with rfl | rfl <;> decide
  simp only [factTexts, List.forall_mem_cons, List.mem_append, not_or, List.not_mem_nil,
    not_false_eq_true, false_implies, implies_true]
  exact ⟨⟨hlabels.1, hkind⟩, ⟨hlabels.2.1, hdigits⟩, ⟨hlabels.2.2.1, hstamp⟩, hlabels.2.2.2,
    trivial, trivial⟩

theorem lookup_factKind (hname : name ≠ ['.', '.']) (kind : FileKind) :
    List.lookup (factKind name kind) typeFacts = some kind := by
  simp only [factKind, if_neg hname]
  cases kind <;> decide

theorem space_notMem_facts (hname : name ≠ ['.', '.']) (hmodified : info.modified.IsRegular) :
    ' ' ∉ Text.join ';' (factTexts name info) := fun hmem => by
  rcases Text.mem_join hmem with heq | ⟨text, htext, hmem⟩
  · exact absurd heq (by decide)
  · exact notMem_of_mem_factTexts hname hmodified (.inl rfl) text htext hmem

theorem readFacts?_factLine (hname : name ≠ ['.', '.']) (hmodified : info.modified.IsRegular) :
    readFacts? (factLine name info) = some ⟨info.kind, info.size, info.modified, name⟩ := by
  have hspace := space_notMem_facts hname hmodified
  have hsplit : Text.split ';' (Text.join ';' (factTexts name info)) = factTexts name info :=
    Text.split_join (by simp [factTexts]) (notMem_of_mem_factTexts hname hmodified (.inr rfl))
  have hlabel : ∀ label rest : Text, Text.after? label (label ++ rest) = some rest := fun _ _ =>
    Text.after?_eq_some_iff.2 rfl
  rw [readFacts?, factLine_eq, Text.takeWhile_ne_append hspace, hsplit,
    Text.dropWhile_ne_append hspace, List.tail_cons]
  simp only [factTexts, hlabel, Option.bind_some, lookup_factKind hname, Decimal.number?_digits,
    hmodified.ofStamp?_stamp, Option.bind_eq_bind]

end Facts

/-! ## Long lines -/

/-- What a date in a listing ends with. -/
inductive Detail where
  | clock (hour minute : Nat)
  | year (year : Int)
  deriving DecidableEq, Repr

/-- What a long line tells about an entry. -/
structure LongEntry where
  kind : FileKind
  links : Nat
  user : Text
  group : Text
  size : Nat
  month : Nat
  day : Nat
  detail : Detail
  name : Text
  deriving DecidableEq, Repr

def letters : List (Char × FileKind) :=
  [('-', .file), ('d', .dir), ('l', .link)]

/-- Reads an hour and a minute with a colon between them, or else a year. -/
def readDetail? (cell : Text) : Option Detail :=
  match Text.split ':' cell with
  | [year] => do
    let year ← Decimal.number? year
    some (.year year)
  | [hour, minute] => do
    let hour ← Decimal.number? hour
    let minute ← Decimal.number? minute
    some (.clock hour minute)
  | _ => none

/-- Reads eight columns, and takes all that follows the space behind the last one for the name. -/
def readLong? (line : Text) : Option LongEntry :=
  match Text.columns 8 line with
  | ([mode, links, user, group, size, month, day, detail], name) => do
    let kind ← mode.head?.bind fun letter => List.lookup letter letters
    let links ← Decimal.number? links
    let size ← Decimal.number? size
    let month ← DateTime.monthNumber? month
    let day ← Decimal.number? day
    let detail ← readDetail? detail
    some ⟨kind, links, user, group, size, month, day, detail, name⟩
  | _ => none

section LongLine

variable {info : FileInfo} {modified now : DateTime}

/-- The detail that is shown for a date. -/
def detail (modified now : DateTime) : Detail :=
  if modified.year = now.year then .clock modified.hour modified.minute else .year modified.year

/-- The detail as it is written, and the spaces in front of it. -/
def detailCell (modified now : DateTime) : Nat × Text :=
  if modified.year = now.year then (0, modified.clock)
  else (5 - (Decimal.signed modified.year).length, Decimal.signed modified.year)

/-- The cells of a long line. The spaces that fill up a column stand in front of the next cell. -/
def cells (info : FileInfo) (now : DateTime) : List (Nat × Text) :=
  [(0, kindLetter info.kind :: "rwxrwxrwx".toList),
    (4 - (Decimal.digits info.links).length, Decimal.digits info.links),
    (0, info.user),
    (8 - info.user.length, info.group),
    (8 - info.group.length + (8 - (Decimal.digits info.size).length), Decimal.digits info.size),
    (0, info.modified.monthName),
    (0, Decimal.zeroPadded 2 info.modified.day),
    detailCell info.modified now]

theorem dateColumn_append (modified now : DateTime) (last : Text) :
    dateColumn modified now ++ ' ' :: last =
      Text.row [(0, modified.monthName), (0, Decimal.zeroPadded 2 modified.day),
        detailCell modified now] last := by
  unfold dateColumn detailCell
  split <;> simp [DateTime.monthDay, Text.padLeft, Text.row]

theorem longLine_eq (name : Text) (info : FileInfo) (now : DateTime) :
    longLine name info now = Text.row (cells info now) name := by
  have hmode : "rwxrwxrwx ".toList = "rwxrwxrwx".toList ++ [' '] := by decide
  simp only [longLine, cells, hmode]
  generalize "rwxrwxrwx".toList = mode
  simp only [List.append_assoc, List.cons_append, List.nil_append]
  rw [dateColumn_append, Text.padLeft_append_row, Text.padRight_append_row,
    Text.padRight_append_row, Text.padLeft_append_row]
  rfl

theorem split_numbers (numbers : List Text) (hne : numbers ≠ [])
    (hdigits : ∀ number ∈ numbers, ∀ c ∈ number, c.isDigit = true) :
    Text.split ':' (Text.join ':' numbers) = numbers :=
  Text.split_join hne fun number hmem hcolon =>
    Decimal.ne_of_isDigit (hdigits number hmem ':' hcolon) (by decide) rfl

theorem readDetail?_clock (modified : DateTime) :
    readDetail? modified.clock = some (.clock modified.hour modified.minute) := by
  have hsplit : Text.split ':' modified.clock =
      [Decimal.zeroPadded 2 modified.hour, Decimal.zeroPadded 2 modified.minute] :=
    split_numbers [Decimal.zeroPadded 2 modified.hour, Decimal.zeroPadded 2 modified.minute]
      (List.cons_ne_nil _ _) <| by
        simpa using ⟨fun _ => Decimal.isDigit_of_mem_zeroPadded,
          fun _ => Decimal.isDigit_of_mem_zeroPadded⟩
  simp only [readDetail?, hsplit, Decimal.number?_zeroPadded, Option.bind_eq_bind,
    Option.bind_some]

theorem signed_year (h : modified.IsRegular) :
    Decimal.signed modified.year = Decimal.digits modified.year.natAbs :=
  if_neg (Int.not_lt.2 h.year.1)

theorem readDetail?_year (h : modified.IsRegular) :
    readDetail? (Decimal.signed modified.year) = some (.year modified.year) := by
  have hsplit : Text.split ':' (Decimal.digits modified.year.natAbs) =
      [Decimal.digits modified.year.natAbs] :=
    split_numbers [Decimal.digits modified.year.natAbs] (List.cons_ne_nil _ _) <| by
      simpa using fun _ => Decimal.isDigit_of_mem_digits
  simp only [signed_year h, readDetail?, hsplit, Decimal.number?_digits, Option.bind_eq_bind,
    Option.bind_some, Int.natAbs_of_nonneg h.year.1]

theorem readDetail?_detailCell (h : modified.IsRegular) (now : DateTime) :
    readDetail? (detailCell modified now).2 = some (detail modified now) := by
  by_cases hyear : modified.year = now.year
  · simp only [detailCell, detail, if_pos hyear, readDetail?_clock]
  · simp only [detailCell, detail, if_neg hyear, readDetail?_year h]

theorem isCell_detailCell (h : modified.IsRegular) (now : DateTime) :
    Text.IsCell (detailCell modified now).2 := by
  unfold detailCell
  split
  · have hhour := Decimal.isCell_zeroPadded 2 modified.hour
    have hminute := Decimal.isCell_zeroPadded 2 modified.minute
    exact ⟨List.append_ne_nil_of_left_ne_nil hhour.ne_nil _, by
      simp [DateTime.clock, hhour.solid, hminute.solid]⟩
  · rw [signed_year h]
    exact Decimal.isCell_digits _

/-- Whatever their lengths, the cells stay apart. -/
theorem isCell_of_mem_cells (hmodified : info.modified.IsRegular) (huser : Text.IsCell info.user)
    (hgroup : Text.IsCell info.group) (now : DateTime) :
    ∀ cell ∈ cells info now, Text.IsCell cell.2 := by
  have hmode : Text.IsCell (kindLetter info.kind :: "rwxrwxrwx".toList) :=
    ⟨List.cons_ne_nil _ _, by cases info.kind <;> decide⟩
  simp only [cells, List.forall_mem_cons, List.not_mem_nil, false_implies, implies_true, and_true]
  exact ⟨hmode, Decimal.isCell_digits _, huser, hgroup, Decimal.isCell_digits _,
    hmodified.isCell_monthName, Decimal.isCell_zeroPadded _ _, isCell_detailCell hmodified now⟩

theorem lookup_kindLetter (kind : FileKind) :
    List.lookup (kindLetter kind) letters = some kind := by
  cases kind <;> decide

theorem readLong?_longLine (hmodified : info.modified.IsRegular) (huser : Text.IsCell info.user)
    (hgroup : Text.IsCell info.group) (name : Text) (now : DateTime) :
    readLong? (longLine name info now) = some ⟨info.kind, info.links, info.user, info.group,
      info.size, info.modified.month, info.modified.day, detail info.modified now, name⟩ := by
  have hcolumns : Text.columns 8 (Text.row (cells info now) name) =
      ((cells info now).map Prod.snd, name) :=
    Text.columns_row (isCell_of_mem_cells hmodified huser hgroup now) name
  rw [readLong?, longLine_eq, hcolumns]
  simp only [cells, List.map_cons, List.map_nil, List.head?_cons, Option.bind_some,
    lookup_kindLetter, Decimal.number?_digits, hmodified.monthNumber?_monthName,
    Decimal.number?_zeroPadded, readDetail?_detailCell hmodified, Option.bind_eq_bind]

end LongLine

/-! ## Both -/

/-- A line tells all that is known about its entry: the facts to the second, or what a long line
shows, and the name as it is. No two entries that differ in these have the same line of facts. -/
theorem lines_decode {name : Text} {info : FileInfo} (hmodified : info.modified.IsRegular) :
    (name ≠ ['.', '.'] →
      (∃ facts, factLine name info = facts ++ ' ' :: name ∧ ' ' ∉ facts) ∧
      readFacts? (factLine name info) = some ⟨info.kind, info.size, info.modified, name⟩ ∧
      ∀ name' info', name' ≠ ['.', '.'] → info'.modified.IsRegular →
        factLine name' info' = factLine name info →
          name' = name ∧ info'.kind = info.kind ∧ info'.size = info.size ∧
            info'.modified = info.modified) ∧
    (Text.IsCell info.user → Text.IsCell info.group → ∀ now,
      readLong? (longLine name info now) = some ⟨info.kind, info.links, info.user, info.group,
        info.size, info.modified.month, info.modified.day,
        if info.modified.year = now.year then .clock info.modified.hour info.modified.minute
        else .year info.modified.year, name⟩) := by
  refine ⟨fun hname => ⟨⟨_, factLine_eq name info, space_notMem_facts hname hmodified⟩,
    readFacts?_factLine hname hmodified, fun name' info' hname' hmodified' heq => ?_⟩,
    fun huser hgroup now => readLong?_longLine hmodified huser hgroup name now⟩
  have hread := readFacts?_factLine hname' hmodified'
  rw [heq, readFacts?_factLine hname hmodified, Option.some.injEq, Facts.mk.injEq] at hread
  obtain ⟨hkind, hsize, hmodified, hname⟩ := hread
  exact ⟨hname.symm, hkind.symm, hsize.symm, hmodified.symm⟩

/-- A file with more links than its column has room for, and with a long owner. -/
def crowded : FileInfo where
  kind := .file
  size := 12345678901
  links := 123456
  user := "administrator"
  group := "staff"
  modified := ⟨2023, 7, 4, 16, 30, 5⟩

/-- The name begins with blanks, and holds what stands between facts. -/
theorem lines_decode_crowded :
    crowded.modified.IsRegular ∧
      readFacts? (factLine "  a=1; b" crowded) =
        some ⟨.file, 12345678901, ⟨2023, 7, 4, 16, 30, 5⟩, "  a=1; b"⟩ ∧
      readLong? (longLine "  a=1; b" crowded ⟨2024, 1, 1, 0, 0, 0⟩) =
        some ⟨.file, 123456, "administrator", "staff", 12345678901, 7, 4, .year 2023, "  a=1; b"⟩ ∧
      readLong? (longLine "  a=1; b" crowded ⟨2023, 12, 31, 0, 0, 0⟩) =
        some ⟨.file, 123456, "administrator", "staff", 12345678901, 7, 4, .clock 16 30,
          "  a=1; b"⟩ := by
  have hmodified : crowded.modified.IsRegular := by constructor <;> decide
  have huser : Text.IsCell crowded.user := by constructor <;> decide
  have hgroup : Text.IsCell crowded.group := by constructor <;> decide
  obtain ⟨hfacts, hlong⟩ := @lines_decode "  a=1; b" crowded hmodified
  exact ⟨hmodified, (hfacts (by decide)).2.1, hlong huser hgroup _, hlong huser hgroup _⟩

end Listing

end Ftp
