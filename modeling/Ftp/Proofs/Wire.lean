import Ftp.Proofs.Encoding

/-!
# Replies on the wire

A client reads a control connection line by line: three digits and a space begin a reply of one
line, three digits and a hyphen one that ends at the first line that begins with the same digits and
a space. `Spells` is this grammar, and `Conveys` applies it to a stream of bytes.

* `read_of_spells`: a reader that finds the messages, so that lines spell but one list of them;
* `Reply.Legible`: a reply of which no text breaks the line that it stands in;
* `conveys_iff`: a stream of such replies conveys just these.
-/

namespace Ftp

/-- A reply as a client gets it. -/
inductive Message where
  | line (code : Nat) (text : Text)
  /-- With the lines between the first and the last one. -/
  | block (code : Nat) (header : Text) (body : List Text) (footer : Text)
  deriving DecidableEq, Repr

/-- Three digits that stand for the code. -/
structure IsCode (digits : Text) (code : Nat) : Prop where
  length : digits.length = 3
  isDigit : ∀ c ∈ digits, c.isDigit = true
  number : Decimal.number digits = code

/-- The messages that the lines spell. -/
inductive Spells : List Text → List Message → Prop
  | nil : Spells [] []
  | line {digits : Text} {code : Nat} {lines : List Text} {messages : List Message}
    (coded : IsCode digits code) (text : Text) (rest : Spells lines messages) :
    Spells ((digits ++ ' ' :: text) :: lines) (.line code text :: messages)
  | block {digits : Text} {code : Nat} {lines : List Text} {messages : List Message}
    (coded : IsCode digits code) (header : Text) {body : List Text}
    (inner : ∀ line ∈ body, ¬ digits ++ [' '] <+: line) (footer : Text)
    (rest : Spells lines messages) :
    Spells ((digits ++ '-' :: header) :: (body ++ (digits ++ ' ' :: footer) :: lines))
      (.block code header body footer :: messages)

/-- The bytes are lines with their ends, and the lines spell the messages. -/
def Conveys (stream : List UInt8) (messages : List Message) : Prop :=
  ∃ lines : List Text, LineBuffer.IsCut stream (lines.map Utf8.encode) [] ∧ Spells lines messages

/-! ## Reading -/

/-- The digits that a line begins with, the character behind them, and the rest. -/
def codeOf? : Text → Option (Text × Char × Text)
  | a :: b :: c :: sep :: rest =>
    if a.isDigit ∧ b.isDigit ∧ c.isDigit then some ([a, b, c], sep, rest) else none
  | _ => none

/-- Reads lines after the first ones of a block: its digits, its header, and what has been read of
its body, the latest line first. -/
def readFrom : Option (Text × Text × List Text) → List Text → Option (List Message)
  | none, [] => some []
  | some _, [] => none
  | none, line :: lines =>
    match codeOf? line with
    | some (digits, ' ', text) =>
      (readFrom none lines).map (.line (Decimal.number digits) text :: ·)
    | some (digits, '-', header) => readFrom (some (digits, header, [])) lines
    | _ => none
  | some (digits, header, body), line :: lines =>
    match Text.after? (digits ++ [' ']) line with
    | some footer =>
      (readFrom none lines).map (.block (Decimal.number digits) header body.reverse footer :: ·)
    | none => readFrom (some (digits, header, line :: body)) lines

section Reading

variable {digits text header footer : Text} {code : Nat} {lines body : List Text}
  {messages messages' : List Message} {stream : List UInt8}

theorem codeOf?_append (h : IsCode digits code) (sep : Char) (text : Text) :
    codeOf? (digits ++ sep :: text) = some (digits, sep, text) := by
  obtain ⟨a, b, c, rfl⟩ := List.length_eq_three.1 h.length
  have hdigits := h.isDigit
  simp only [List.mem_cons, List.not_mem_nil, or_false, forall_eq_or_imp, forall_eq] at hdigits
  simp [codeOf?, hdigits]

/-- The body of a block goes on up to the line that repeats the digits. -/
theorem readFrom_block (inner : ∀ line ∈ body, ¬ digits ++ [' '] <+: line) (seen : List Text) :
    readFrom (some (digits, header, seen)) (body ++ (digits ++ ' ' :: footer) :: lines) =
      (readFrom none lines).map
        (.block (Decimal.number digits) header (seen.reverse ++ body) footer :: ·) := by
  induction body generalizing seen with
  | nil =>
    have hafter : Text.after? (digits ++ [' ']) (digits ++ ' ' :: footer) = some footer :=
      Text.after?_eq_some_iff.2 (by simp)
    rw [List.nil_append, readFrom, hafter, List.append_nil]
  | cons line body ih =>
    have hafter : Text.after? (digits ++ [' ']) line = none := by
      rw [Option.eq_none_iff_forall_ne_some]
      intro rest hrest
      refine inner line List.mem_cons_self ⟨rest, ?_⟩
      exact (Text.after?_eq_some_iff.1 hrest).symm
    rw [List.cons_append, readFrom, hafter]
    simp only []
    rw [ih (fun line hmem => inner line (List.mem_cons_of_mem _ hmem))]
    simp

theorem read_of_spells (h : Spells lines messages) : readFrom none lines = some messages := by
  -- The reader takes one message at a time, just as the grammar does.
  induction h with
  | nil => rfl
  | line coded text rest ih =>
    rw [readFrom, codeOf?_append coded]
    simp only [ih, coded.number, Option.map_some]
  | block coded header inner footer rest ih =>
    rw [readFrom, codeOf?_append coded]
    simp only []
    rw [readFrom_block inner, ih, coded.number]
    rfl

/-- No lines spell two different lists of messages. -/
theorem Spells.unique (h : Spells lines messages) (h' : Spells lines messages') :
    messages = messages' :=
  Option.some.inj ((read_of_spells h).symm.trans (read_of_spells h'))

theorem Conveys.unique (h : Conveys stream messages) (h' : Conveys stream messages') :
    messages = messages' := by
  obtain ⟨lines, hcut, hspells⟩ := h
  obtain ⟨lines', hcut', hspells'⟩ := h'
  have hlines : ∀ {lines : List Text}, LineBuffer.IsCut stream (lines.map Utf8.encode) [] →
      LineBuffer.lines stream = (lines.map Utf8.encode, []) := by
    intro lines hcut
    have heq := LineBuffer.lines_ends hcut.lines []
    rw [← hcut.eq] at heq
    simpa [LineBuffer.lines] using heq
  have heq := (hlines hcut).symm.trans (hlines hcut')
  have hsame : lines = lines' :=
    Utf8.encode_injective.list_map (congrArg Prod.fst heq)
  exact hspells.unique (hsame ▸ hspells')

end Reading

/-! ## Replies -/

namespace Reply

/-- The reply as the client gets it. -/
def message : Reply → Message
  | .line code text => .line code text
  | .quoted code path => .line code ('"' :: path ++ ['"'])
  | .block code header body footer => .block code header (body.map (' ' :: ·)) footer

/-- The lines of the reply without their ends. -/
def lines : Reply → List Text
  | .line code text => [codeText code ++ ' ' :: text]
  | .quoted code path => [codeText code ++ ' ' :: ('"' :: path ++ ['"'])]
  | .block code header body footer =>
    (codeText code ++ '-' :: header) :: (body.map (' ' :: ·) ++ [codeText code ++ ' ' :: footer])

/-- What stands in the lines behind the code. -/
def texts : Reply → List Text
  | .line _ text => [text]
  | .quoted _ path => [path]
  | .block _ header body footer => header :: footer :: body

/-- The code has three digits, and no text has a line end in it. -/
structure Legible (reply : Reply) : Prop where
  code : reply.code < 1000
  unbroken : ∀ text ∈ reply.texts, Unbroken text

variable {reply : Reply}

theorem text_eq (reply : Reply) : reply.text = reply.lines.flatMap (· ++ lineEnd) := by
  cases reply with
  | line | quoted => simp [text, lines]
  | block code header body footer => simp [text, lines, List.flatMap_map]

theorem bytes_eq (reply : Reply) :
    reply.bytes = LineBuffer.ends (reply.lines.map Utf8.encode) := by
  rw [bytes, text_eq, Utf8.encode, List.flatMap_assoc, LineBuffer.ends, List.flatMap_map]
  refine List.flatMap_congr fun line _ => ?_
  exact Utf8.encode_append line lineEnd

theorem isCode_codeText {code : Nat} (h : code < 1000) : IsCode (codeText code) code where
  length := Decimal.length_zeroPadded
    ((Nat.length_toDigits_le_iff (by decide) (by decide)).2 h)
  isDigit _ hmem := Decimal.isDigit_of_mem_zeroPadded hmem
  number := Decimal.number_zeroPadded 3 code

/-- A line that begins with a blank is never taken for the last one of a block. -/
theorem not_isPrefix_indented {digits : Text} {code : Nat} (h : IsCode digits code)
    (line : Text) : ¬ digits ++ [' '] <+: ' ' :: line := by
  obtain ⟨a, b, c, rfl⟩ := List.length_eq_three.1 h.length
  intro hprefix
  have hhead := (List.cons_prefix_cons.1 hprefix).1
  exact Decimal.ne_of_isDigit (h.isDigit a (by simp)) (by decide) hhead

theorem Legible.unbroken_line (h : reply.Legible) : ∀ line ∈ reply.lines, Unbroken line := by
  have hcode : '\r' ∉ codeText reply.code := fun hmem =>
    Decimal.ne_of_isDigit ((isCode_codeText h.code).isDigit _ hmem) (by decide) rfl
  have hcoded : ∀ {sep : Char} {text : Text}, sep ≠ '\r' → Unbroken text →
      Unbroken (codeText reply.code ++ sep :: text) := fun hsep htext =>
    Unbroken.append_left (unbroken_cons.2 ⟨fun heq => hsep heq.1, htext⟩) hcode
  have htexts := h.unbroken
  intro line hmem
  cases reply with
  | line code text =>
    rw [List.mem_singleton.1 hmem]
    exact hcoded (by decide) (htexts text (by simp [texts]))
  | quoted code path =>
    rw [List.mem_singleton.1 hmem]
    have hpath : Unbroken ('"' :: path ++ ['"']) :=
      ((unbroken_cons.2 ⟨by simp, htexts path (by simp [texts])⟩).append
        (unbroken_of_notMem (by decide)) (.inr (by simp)))
    exact hcoded (by decide) hpath
  | block code header body footer =>
    rcases List.mem_cons.1 hmem with rfl | hmem
    · exact hcoded (by decide) (htexts header (by simp [texts]))
    · rcases List.mem_append.1 hmem with hmem | hmem
      · obtain ⟨text, htext, rfl⟩ := List.mem_map.1 hmem
        exact unbroken_cons.2 ⟨by simp, htexts text (by simp [texts, htext])⟩
      · rw [List.mem_singleton.1 hmem]
        exact hcoded (by decide) (htexts footer (by simp [texts]))

theorem Legible.spells (h : reply.Legible) {lines : List Text} {messages : List Message}
    (rest : Spells lines messages) : Spells (reply.lines ++ lines) (reply.message :: messages) := by
  have hcode := isCode_codeText h.code
  cases reply with
  | line code text => exact .line hcode text rest
  | quoted code path => exact .line hcode _ rest
  | block code header body footer =>
    rw [Reply.lines, List.cons_append, List.append_assoc]
    refine .block hcode header (fun line hmem => ?_) footer rest
    obtain ⟨text, -, rfl⟩ := List.mem_map.1 hmem
    exact not_isPrefix_indented hcode text

end Reply

section Streams

variable {replies : List Reply}

theorem conveys_of_legible (h : ∀ reply ∈ replies, reply.Legible) :
    Conveys (replies.flatMap Reply.bytes) (replies.map Reply.message) := by
  refine ⟨replies.flatMap Reply.lines, ⟨?_, ?_, LineBuffer.endFree_nil⟩, ?_⟩
  · rw [List.append_nil, List.map_flatMap, LineBuffer.ends, List.flatMap_assoc]
    exact List.flatMap_congr fun reply _ => reply.bytes_eq
  · intro bytes hmem
    obtain ⟨line, hline, rfl⟩ := List.mem_map.1 hmem
    obtain ⟨reply, hreply, hline⟩ := List.mem_flatMap.1 hline
    exact Utf8.endFree_encode ((h reply hreply).unbroken_line line hline)
  · induction replies with
    | nil => exact .nil
    | cons reply replies ih =>
      exact (h reply List.mem_cons_self).spells
        (ih fun reply hmem => h reply (List.mem_cons_of_mem _ hmem))

/-- A stream of replies conveys these and nothing else. -/
theorem conveys_iff (h : ∀ reply ∈ replies, reply.Legible) {messages : List Message} :
    Conveys (replies.flatMap Reply.bytes) messages ↔ messages = replies.map Reply.message :=
  ⟨fun hconveys => hconveys.unique (conveys_of_legible h), fun heq => heq ▸ conveys_of_legible h⟩

end Streams

end Ftp
