import Ftp.Text.Blank
import Ftp.Toml.Number

/-!
# Quoted strings of a TOML document

Strings in quotation marks know escapes, those in apostrophes do not, and both come with three marks
for several lines. Every reader begins after the opening marks. Line ends are single newlines here.
-/

namespace Ftp.Toml

/-- A character that a comment may hold. -/
def isPrintable (c : Char) : Bool :=
  c = '\t' || ' ' ≤ c

/-- A character that a string holds as it stands. -/
def isPlain (c : Char) : Bool :=
  isPrintable c && c ≠ '\x7f'

/-- Puts a character before a string that has been read. -/
def consRead (c : Char) (read : Option (Text × Text)) : Option (Text × Text) :=
  read.map fun (text, rest) => (c :: text, rest)

/-! ## Escapes -/

/-- The character whose number is given by so many hexadecimal digits. -/
def unicode? (count : Nat) (text : Text) : Option (Char × Text) :=
  let digits := text.take count
  let n := baseNumber 16 digits
  if digits.length = count ∧ digits.all isHexDigit ∧ n.isValidChar then
    some (Char.ofNat n, text.drop count)
  else none

/-- The character that an escape stands for, after its backslash, and what follows it. -/
def escape? : Text → Option (Char × Text)
  | 'b' :: rest => some ('\x08', rest)
  | 't' :: rest => some ('\t', rest)
  | 'n' :: rest => some ('\n', rest)
  | 'f' :: rest => some ('\x0c', rest)
  | 'r' :: rest => some ('\r', rest)
  | '"' :: rest => some ('"', rest)
  | '\\' :: rest => some ('\\', rest)
  | 'u' :: rest => unicode? 4 rest
  | 'U' :: rest => unicode? 8 rest
  | _ => none

theorem length_unicode?_le {count : Nat} {text rest : Text} {c : Char}
    (h : unicode? count text = some (c, rest)) : rest.length ≤ text.length := by
  simp only [unicode?] at h
  split at h <;> simp_all
  simp [← h.2]

theorem length_escape?_lt {text rest : Text} {c : Char} (h : escape? text = some (c, rest)) :
    rest.length < text.length := by
  unfold escape? at h
  split at h <;> simp_all
  all_goals have := length_unicode?_le h; omega

/-- What follows a line end that a backslash hides: blanks may stand before it, and all blanks and
line ends after it are hidden too. -/
def hiddenBreak? (text : Text) : Option Text :=
  match text.dropWhile Text.isPadding with
  | '\n' :: rest => some (rest.dropWhile fun c => Text.isPadding c || c = '\n')
  | _ => none

theorem length_dropWhile_le (p : Char → Bool) (text : Text) :
    (text.dropWhile p).length ≤ text.length :=
  (List.dropWhile_sublist p).length_le

theorem length_hiddenBreak?_lt {text rest : Text} (h : hiddenBreak? text = some rest) :
    rest.length < text.length := by
  have blanks := length_dropWhile_le Text.isPadding text
  simp only [hiddenBreak?] at h
  split at h
  · rename_i after heq
    cases h
    have := length_dropWhile_le (fun c => Text.isPadding c || c = '\n') after
    simp only [heq, List.length_cons] at blanks
    omega
  · simp at h

/-! ## Strings -/

/-- A string with escapes on one line, and what follows its closing mark. -/
def basicString? : Text → Option (Text × Text)
  | [] => none
  | '"' :: rest => some ([], rest)
  | '\\' :: rest =>
    match h : escape? rest with
    | some (c, after) =>
      have := length_escape?_lt h
      consRead c (basicString? after)
    | none => none
  | c :: rest => if isPlain c then consRead c (basicString? rest) else none
termination_by text => text.length

/-- A string without escapes on one line, and what follows its closing mark. -/
def literalString? : Text → Option (Text × Text)
  | [] => none
  | '\'' :: rest => some ([], rest)
  | c :: rest => if isPlain c then consRead c (literalString? rest) else none

/-- A newline right after the opening marks does not count. -/
def dropNewline : Text → Text
  | '\n' :: rest => rest
  | text => text

/-- What up to two marks after the closing ones add to a string of several lines. -/
def closeLong (mark : Char) : Text → Text × Text
  | c :: d :: rest =>
    if c = mark then if d = mark then ([c, d], rest) else ([c], d :: rest) else ([], c :: d :: rest)
  | [c] => if c = mark then ([c], []) else ([], [c])
  | [] => ([], [])

/-- A string with escapes on several lines, and what follows its closing marks. -/
def longString? : Text → Option (Text × Text)
  | [] => none
  | '"' :: '"' :: '"' :: rest => some (closeLong '"' rest)
  | '\\' :: rest =>
    match hb : hiddenBreak? rest with
    | some after =>
      have := length_hiddenBreak?_lt hb
      longString? after
    | none =>
      match h : escape? rest with
      | some (c, after) =>
        have := length_escape?_lt h
        consRead c (longString? after)
      | none => none
  | c :: rest => if isPlain c ∨ c = '\n' then consRead c (longString? rest) else none
termination_by text => text.length

/-- A string without escapes on several lines, and what follows its closing marks. -/
def longLiteral? : Text → Option (Text × Text)
  | [] => none
  | '\'' :: '\'' :: '\'' :: rest => some (closeLong '\'' rest)
  | c :: rest => if isPlain c ∨ c = '\n' then consRead c (longLiteral? rest) else none

/-- A quoted string, and what follows it. -/
def quoted? : Text → Option (Text × Text)
  | '"' :: '"' :: '"' :: rest => longString? (dropNewline rest)
  | '"' :: rest => basicString? rest
  | '\'' :: '\'' :: '\'' :: rest => longLiteral? (dropNewline rest)
  | '\'' :: rest => literalString? rest
  | _ => none

end Ftp.Toml
