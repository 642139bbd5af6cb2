import Ftp.Text

/-!
# UTF-8

Text is written to the wire in UTF-8 and read from it leniently: a sequence that no character is
encoded by becomes one replacement character, and reading goes on with the first byte that does not
continue it.
-/

namespace Ftp.Utf8

/-- The number of bytes that the encoding of `s` takes. -/
def length : Text → Nat
  | [] => 0
  | c :: s => c.utf8Size + length s

/-- The byte that continues a character with the six low bits of `n`. -/
def continuation (n : Nat) : UInt8 :=
  UInt8.ofNat (0x80 + n % 0x40)

/-- The one to four bytes of a character. -/
def encodeChar (c : Char) : List UInt8 :=
  let n := c.toNat
  if n < 0x80 then [UInt8.ofNat n]
  else if n < 0x800 then [UInt8.ofNat (0xC0 + n / 0x40), continuation n]
  else if n < 0x10000 then
    [UInt8.ofNat (0xE0 + n / 0x1000), continuation (n / 0x40), continuation n]
  else
    [UInt8.ofNat (0xF0 + n / 0x40000), continuation (n / 0x1000), continuation (n / 0x40),
      continuation n]

/-- The bytes of a text. -/
def encode (s : Text) : List UInt8 :=
  s.flatMap encodeChar

/-- A character of which some bytes have been read. -/
structure Partial where
  /-- The bits read so far. -/
  bits : Nat
  /-- The number of bytes still to come after the next one. -/
  later : Nat
  /-- The least byte that may come next. -/
  low : UInt8
  /-- The greatest byte that may come next. -/
  high : UInt8

/-- What the first byte of a character announces. -/
inductive Lead where
  | whole (c : Char)
  | start (p : Partial)
  | invalid

/-- Over-long encodings, surrogates and numbers above the last character are ruled out by the second
byte. -/
def lead (b : UInt8) : Lead :=
  let n := b.toNat
  if n < 0x80 then .whole (Char.ofNat n)
  else if n < 0xC2 then .invalid
  else if n < 0xE0 then .start ⟨n - 0xC0, 0, 0x80, 0xBF⟩
  else if n < 0xF0 then
    .start ⟨n - 0xE0, 1, if n = 0xE0 then 0xA0 else 0x80, if n = 0xED then 0x9F else 0xBF⟩
  else if n < 0xF5 then
    .start ⟨n - 0xF0, 2, if n = 0xF0 then 0x90 else 0x80, if n = 0xF4 then 0x8F else 0xBF⟩
  else .invalid

/-- Stands for a sequence of bytes that encodes no character. -/
def replacement : Char := '\uFFFD'

/-- Reads bytes after the ones of a character that is not complete yet. -/
def decodeFrom : Option Partial → List UInt8 → Text
  | none, [] => []
  | some _, [] => [replacement]
  | none, b :: rest =>
    match lead b with
    | .whole c => c :: decodeFrom none rest
    | .start p => decodeFrom (some p) rest
    | .invalid => replacement :: decodeFrom none rest
  | some p, b :: rest =>
    if p.low ≤ b ∧ b ≤ p.high then
      let bits := p.bits * 0x40 + b.toNat % 0x40
      match p.later with
      | 0 => Char.ofNat bits :: decodeFrom none rest
      | later + 1 => decodeFrom (some ⟨bits, later, 0x80, 0xBF⟩) rest
    else
      replacement ::
        match lead b with
        | .whole c => c :: decodeFrom none rest
        | .start p => decodeFrom (some p) rest
        | .invalid => replacement :: decodeFrom none rest

/-- The text that the bytes encode, with a replacement character for each longest sequence that
begins like the encoding of a character and is not one. -/
def decode (bytes : List UInt8) : Text :=
  decodeFrom none bytes

theorem utf8Size_eq (c : Char) :
    c.utf8Size =
      if c.toNat < 0x80 then 1
      else if c.toNat < 0x800 then 2
      else if c.toNat < 0x10000 then 3
      else 4 := by
  simp only [Char.utf8Size, UInt32.le_iff_toNat_le, UInt32.toNat_ofNatLT, ← Nat.lt_succ_iff]
  rfl

theorem length_encodeChar (c : Char) : (encodeChar c).length = c.utf8Size := by
  simp only [utf8Size_eq, encodeChar]
  split
  · rfl
  split
  · rfl
  split <;> rfl

theorem length_encode (s : Text) : (encode s).length = length s := by
  induction s with
  | nil => rfl
  | cons c s ih => simp_all [encode, length, length_encodeChar]

theorem encode_append (s t : Text) : encode (s ++ t) = encode s ++ encode t := by
  simp [encode]

end Ftp.Utf8
