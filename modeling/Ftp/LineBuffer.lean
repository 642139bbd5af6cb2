import Ftp.Panic
import Ftp.Text.Utf8

/-!
# Line buffer

Collects the bytes of a control connection and cuts them into lines at each CR LF. A line that does
not fit the buffer is dropped: what is buffered of it is thrown away and its rest skipped as it
arrives. `eq_append_of_cut?` says that cutting loses nothing but the end of the line.
-/

namespace Ftp

/-- The bytes of a connection that no line has been made of yet. -/
structure LineBuffer where
  /-- The number of bytes that the buffer holds at most. -/
  capacity : Nat
  bytes : List UInt8 := []
  /-- The rest of a line that did not fit is being skipped. -/
  skipping : Bool := false
  /-- While skipping: the last byte was a CR. -/
  lastWasCR : Bool := false
  deriving DecidableEq, Repr

namespace LineBuffer

def cr : UInt8 := 13

def lf : UInt8 := 10

/-- Cuts at the first CR LF: the bytes before it and those behind it. -/
def cut? : List UInt8 → Option (List UInt8 × List UInt8)
  | [] => none
  | b :: rest =>
    if b = cr ∧ rest.head? = some lf then some ([], rest.tail)
    else (cut? rest).map fun (line, rest) => (b :: line, rest)

theorem eq_append_of_cut? {bytes line rest : List UInt8} (h : cut? bytes = some (line, rest)) :
    bytes = line ++ cr :: lf :: rest := by
  induction bytes generalizing line with
  | nil => simp [cut?] at h
  | cons b bytes ih =>
    simp only [cut?] at h
    split at h
    · cases bytes with
      | nil => simp_all
      | cons c bytes => simp_all
    · obtain ⟨⟨line', rest'⟩, hcut, heq⟩ := Option.map_eq_some_iff.1 h
      obtain ⟨rfl, rfl⟩ := Prod.mk.inj heq
      simp [ih hcut]

/-- Skips to behind the first CR LF, where `lastWasCR` tells whether a CR stands before the bytes.
Gives the bytes behind it, or if there is none whether the last byte is a CR. -/
def skipLine (lastWasCR : Bool) : List UInt8 → Except Bool (List UInt8)
  | [] => .error lastWasCR
  | b :: rest => if lastWasCR ∧ b = lf then .ok rest else skipLine (b = cr) rest

/-- A buffer without bytes. Room for as many as it may ever hold is set aside at once. -/
def empty (capacity : Nat) : Except Panic LineBuffer :=
  allocate capacity 1 { capacity }

variable (buffer : LineBuffer)

def length : Nat :=
  buffer.bytes.length

def isEmpty : Bool :=
  buffer.bytes.isEmpty

/-- The number of bytes that still fit. -/
def spare : Nat :=
  buffer.capacity - buffer.length

/-- Appends what fits of the bytes. -/
def store (bytes : List UInt8) : LineBuffer :=
  { buffer with bytes := buffer.bytes ++ bytes.take buffer.spare }

/-- Takes bytes in, and tells how many. Bytes that are skipped count, bytes that do not fit do
not. -/
def extend (bytes : List UInt8) : Nat × LineBuffer :=
  if buffer.skipping then
    match skipLine buffer.lastWasCR bytes with
    | .error lastWasCR => (bytes.length, { buffer with lastWasCR })
    | .ok rest =>
      (bytes.length - rest.length + min rest.length buffer.spare,
        { buffer with skipping := false, lastWasCR := false }.store rest)
  else (min bytes.length buffer.spare, buffer.store bytes)

/-- The buffer holds a complete line. -/
def hasLine : Bool :=
  (cut? buffer.bytes).isSome

/-- Takes the first complete line, without its end. -/
def nextLine? : Option (Text × LineBuffer) :=
  (cut? buffer.bytes).map fun (line, rest) => (Utf8.decode line, { buffer with bytes := rest })

/-- The buffer is full and holds no complete line. -/
def overflowed : Bool :=
  buffer.capacity ≤ buffer.length && !buffer.hasLine

/-- Drops the line that does not fit, including those of its bytes that have not arrived yet. -/
def dropLine : LineBuffer :=
  { buffer with bytes := [], skipping := true, lastWasCR := buffer.bytes.getLast? = some cr }

end LineBuffer

end Ftp
