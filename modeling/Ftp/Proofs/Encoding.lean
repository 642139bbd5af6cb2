import Mathlib.Algebra.GroupWithZero.Nat
import Mathlib.Data.List.Chain
import Mathlib.Data.List.Infix
import Ftp.Proofs.LineSplit

/-!
# Line ends in encoded text

UTF-8 neither makes line ends nor hides them: a CR LF stands in the bytes of a text only where it
stands in the text, and bytes without a CR LF are read as a text without one, whether they are well
formed or not.

* `Unbroken.append`, `Unbroken.of_isInfix`: texts put together and taken apart;
* `Utf8.decode_encode`: what has been written reads back;
* `Utf8.endFree_encode`, `Utf8.unbroken_decode`: no line end comes up on the way out or in.
-/

namespace Ftp

/-- There is no line end in the text. -/
def Unbroken (s : Text) : Prop :=
  ¬ Reply.lineEnd <:+: s

/-- Two neighbours are not the given ones. -/
theorem pair_notInfix_iff {α : Type} {a b : α} {l : List α} :
    ¬ [a, b] <:+: l ↔ l.IsChain fun x y => ¬ (x = a ∧ y = b) := by
  induction l with
  | nil => simp
  | cons x l ih =>
    cases l with
    | nil =>
      refine iff_of_true (fun h => ?_) (.singleton x)
      have := h.length_le
      simp at this
    | cons y l =>
      simp only [List.infix_cons_iff (a := x), List.cons_prefix_cons, List.nil_prefix, and_true,
        not_or, List.isChain_cons_cons, ih]
      rw [eq_comm, eq_comm (b := y)]

theorem unbroken_iff {s : Text} : Unbroken s ↔ s.IsChain fun c d => ¬ (c = '\r' ∧ d = '\n') :=
  pair_notInfix_iff

section Unbroken

variable {s t : Text}

theorem unbroken_of_notMem (h : '\r' ∉ s) : Unbroken s :=
  fun hend => h (hend.subset List.mem_cons_self)

theorem Unbroken.of_isInfix (h : Unbroken s) (hpart : t <:+: s) : Unbroken t :=
  fun hend => h (hend.trans hpart)

theorem unbroken_cons {c : Char} : Unbroken (c :: s) ↔
    ¬ (c = '\r' ∧ s.head? = some '\n') ∧ Unbroken s := by
  rw [unbroken_iff, unbroken_iff, List.isChain_cons]
  refine and_congr_left fun _ => ⟨fun h heq => h '\n' heq.2 ⟨heq.1, rfl⟩, ?_⟩
  rintro h d hd ⟨hc, rfl⟩
  exact h ⟨hc, hd⟩

/-- Where two texts meet, a line end would need the first to end in a CR. -/
theorem Unbroken.append (hs : Unbroken s) (ht : Unbroken t)
    (h : s.getLast? ≠ some '\r' ∨ t.head? ≠ some '\n') : Unbroken (s ++ t) := by
  rw [unbroken_iff] at hs ht ⊢
  refine List.isChain_append.2 ⟨hs, ht, ?_⟩
  rintro x hx y hy ⟨rfl, rfl⟩
  exact h.elim (absurd hx) (absurd hy)

/-- A text without a CR in front. -/
theorem Unbroken.append_left (ht : Unbroken t) (hs : '\r' ∉ s) : Unbroken (s ++ t) :=
  (unbroken_of_notMem hs).append ht (.inl fun h => hs (List.mem_of_getLast? h))

end Unbroken

theorem endFree_iff {bytes : List UInt8} :
    LineBuffer.EndFree bytes ↔
      bytes.IsChain fun b c => ¬ (b = LineBuffer.cr ∧ c = LineBuffer.lf) :=
  pair_notInfix_iff

namespace Utf8

open LineBuffer

/-! ## Encoded text -/

theorem toNat_continuation (n : Nat) : (continuation n).toNat = 0x80 + n % 0x40 := by
  rw [continuation, UInt8.toNat_ofNat']
  omega

theorem valid_toNat (c : Char) :
    c.toNat < 0xD800 ∨ 0xDFFF < c.toNat ∧ c.toNat < 0x110000 :=
  c.valid

/-- A byte below 128 is a whole character. -/
theorem eq_of_mem_encodeChar {b : UInt8} {c : Char} (h : b ∈ encodeChar c) (hb : b.toNat < 0x80) :
    c = Char.ofNat b.toNat := by
  have hbig : ∀ n, b ≠ continuation n := by
    rintro n rfl
    rw [toNat_continuation] at hb
    omega
  have hlead : ∀ n, 0x80 ≤ n → n < 0x100 → b ≠ UInt8.ofNat n := by
    rintro n hle hlt rfl
    rw [UInt8.toNat_ofNat'] at hb
    omega
  have hvalid := valid_toNat c
  simp only [encodeChar] at h
  split at h
  · rename_i hn
    rw [List.mem_singleton.1 h, UInt8.toNat_ofNat', Nat.mod_eq_of_lt (by omega), Char.ofNat_toNat]
  split at h
  · simp only [List.mem_cons, hlead (0xC0 + c.toNat / 0x40) (by omega) (by omega), hbig,
      List.not_mem_nil, or_self] at h
  split at h
  · simp only [List.mem_cons, hlead (0xE0 + c.toNat / 0x1000) (by omega) (by omega), hbig,
      List.not_mem_nil, or_self] at h
  · simp only [List.mem_cons, hlead (0xF0 + c.toNat / 0x40000) (by omega) (by omega), hbig,
      List.not_mem_nil, or_self] at h

theorem encodeChar_ne_nil (c : Char) : encodeChar c ≠ [] :=
  List.ne_nil_of_length_pos (length_encodeChar c ▸ c.utf8Size_pos)

theorem encode_cons (c : Char) (s : Text) : encode (c :: s) = encodeChar c ++ encode s :=
  List.flatMap_cons

/-- A CR LF in the bytes comes from one in the text. -/
theorem endFree_encode {s : Text} (h : Unbroken s) : EndFree (encode s) := by
  rw [unbroken_iff] at h
  rw [endFree_iff]
  induction s with
  | nil => exact .nil
  | cons c s ih =>
    obtain ⟨hhead, hrest⟩ := List.isChain_cons.1 h
    rw [encode_cons, List.isChain_append]
    refine ⟨?_, ih hrest, ?_⟩
    · -- A character of several bytes has none below 128, so that only its own bytes could be a CR.
      have hcr : cr ∈ encodeChar c → (encodeChar c).length = 1 := by
        intro hmem
        rw [eq_of_mem_encodeChar hmem (by decide)]
        rfl
      rw [List.isChain_iff_getElem]
      rintro i hi ⟨heq, -⟩
      have := hcr (heq ▸ List.getElem_mem _)
      omega
    · rintro x hx y hy ⟨rfl, rfl⟩
      obtain rfl : c = '\r' := eq_of_mem_encodeChar (List.mem_of_getLast? hx) (by decide)
      cases s with
      | nil => cases hy
      | cons d s =>
        have hd : lf ∈ encodeChar d := by
          rw [encode_cons, List.head?_append_of_ne_nil _ (encodeChar_ne_nil d)] at hy
          exact List.mem_of_head? hy
        exact hhead d rfl ⟨rfl, eq_of_mem_encodeChar hd (by decide)⟩

/-! ## Reading back -/

theorem lead_ofNat (n : Nat) (h : n < 0x100) :
    lead (UInt8.ofNat n) =
      if n < 0x80 then .whole (Char.ofNat n)
      else if n < 0xC2 then .invalid
      else if n < 0xE0 then .start ⟨n - 0xC0, 0, 0x80, 0xBF⟩
      else if n < 0xF0 then
        .start ⟨n - 0xE0, 1, if n = 0xE0 then 0xA0 else 0x80, if n = 0xED then 0x9F else 0xBF⟩
      else if n < 0xF5 then
        .start ⟨n - 0xF0, 2, if n = 0xF0 then 0x90 else 0x80, if n = 0xF4 then 0x8F else 0xBF⟩
      else .invalid := by
  have hn : (UInt8.ofNat n).toNat = n := by
    rw [UInt8.toNat_ofNat']
    omega
  simp only [lead, hn]

theorem decodeFrom_start {b : UInt8} {p : Partial} (h : lead b = .start p) (rest : List UInt8) :
    decodeFrom none (b :: rest) = decodeFrom (some p) rest := by
  rw [decodeFrom, h]

section Continuation

variable {bits later n : Nat} {low high : UInt8} (hlow : low.toNat ≤ 0x80 + n % 0x40)
  (hhigh : 0x80 + n % 0x40 ≤ high.toNat) (rest : List UInt8)

include hlow hhigh

theorem mem_range_continuation : low ≤ continuation n ∧ continuation n ≤ high := by
  rw [UInt8.le_iff_toNat_le, UInt8.le_iff_toNat_le, toNat_continuation]
  exact ⟨hlow, hhigh⟩

theorem decodeFrom_last :
    decodeFrom (some ⟨bits, 0, low, high⟩) (continuation n :: rest) =
      Char.ofNat (bits * 0x40 + n % 0x40) :: decodeFrom none rest := by
  have hbits : (0x80 + n % 0x40) % 0x40 = n % 0x40 := by omega
  rw [decodeFrom, if_pos (mem_range_continuation hlow hhigh)]
  simp only [toNat_continuation, hbits]

theorem decodeFrom_more :
    decodeFrom (some ⟨bits, later + 1, low, high⟩) (continuation n :: rest) =
      decodeFrom (some ⟨bits * 0x40 + n % 0x40, later, 0x80, 0xBF⟩) rest := by
  have hbits : (0x80 + n % 0x40) % 0x40 = n % 0x40 := by omega
  rw [decodeFrom, if_pos (mem_range_continuation hlow hhigh)]
  simp only [toNat_continuation, hbits]

end Continuation

theorem decodeFrom_encodeChar (c : Char) (rest : List UInt8) :
    decodeFrom none (encodeChar c ++ rest) = c :: decodeFrom none rest := by
  have hvalid := valid_toNat c
  have hchar := Char.ofNat_toNat c
  have hrange : ∀ m, (0x80 : UInt8).toNat ≤ 0x80 + m % 0x40 ∧
      0x80 + m % 0x40 ≤ (0xBF : UInt8).toNat := fun m => ⟨by simp, by simp; omega⟩
  simp only [encodeChar]
  generalize c.toNat = n at hvalid hchar ⊢
  split
  · rename_i h
    rw [List.singleton_append, decodeFrom, lead_ofNat n (by omega), if_pos h, hchar]
  split
  · have hlead : lead (UInt8.ofNat (0xC0 + n / 0x40)) = .start ⟨n / 0x40, 0, 0x80, 0xBF⟩ := by
      rw [lead_ofNat _ (by omega), if_neg (by omega), if_neg (by omega), if_pos (by omega),
        Nat.add_sub_cancel_left]
    have hbits : n / 0x40 * 0x40 + n % 0x40 = n := by omega
    simp only [List.cons_append, List.nil_append]
    rw [decodeFrom_start hlead, decodeFrom_last (hrange n).1 (hrange n).2, hbits, hchar]
  split
  · have hlead : lead (UInt8.ofNat (0xE0 + n / 0x1000)) =
        .start ⟨n / 0x1000, 1, if n / 0x1000 = 0 then 0xA0 else 0x80,
          if n / 0x1000 = 0xD then 0x9F else 0xBF⟩ := by
      rw [lead_ofNat _ (by omega), if_neg (by omega), if_neg (by omega), if_neg (by omega),
        if_pos (by omega), Nat.add_sub_cancel_left]
      simp only [Nat.add_eq_left, show 0xE0 + n / 0x1000 = 0xED ↔ n / 0x1000 = 0xD by omega]
    have hbits : (n / 0x1000 * 0x40 + n / 0x40 % 0x40) * 0x40 + n % 0x40 = n := by omega
    simp only [List.cons_append, List.nil_append]
    rw [decodeFrom_start hlead, decodeFrom_more, decodeFrom_last (hrange n).1 (hrange n).2, hbits,
      hchar]
    · split <;> simp
      omega
    · split <;> simp <;> omega
  · have hlead : lead (UInt8.ofNat (0xF0 + n / 0x40000)) =
        .start ⟨n / 0x40000, 2, if n / 0x40000 = 0 then 0x90 else 0x80,
          if n / 0x40000 = 4 then 0x8F else 0xBF⟩ := by
      rw [lead_ofNat _ (by omega), if_neg (by omega), if_neg (by omega), if_neg (by omega),
        if_neg (by omega), if_pos (by omega), Nat.add_sub_cancel_left]
      simp only [Nat.add_eq_left, show 0xF0 + n / 0x40000 = 0xF4 ↔ n / 0x40000 = 4 by omega]
    have hbits : ((n / 0x40000 * 0x40 + n / 0x1000 % 0x40) * 0x40 + n / 0x40 % 0x40) * 0x40 +
        n % 0x40 = n := by omega
    simp only [List.cons_append, List.nil_append]
    rw [decodeFrom_start hlead, decodeFrom_more,
      decodeFrom_more (hrange (n / 0x40)).1 (hrange (n / 0x40)).2,
      decodeFrom_last (hrange n).1 (hrange n).2, hbits, hchar]
    · split <;> simp
      omega
    · split <;> simp <;> omega

/-- What has been written reads back. -/
theorem decode_encode (s : Text) : decode (encode s) = s := by
  induction s with
  | nil => rfl
  | cons c s ih =>
    rw [decode] at ih ⊢
    rw [encode_cons, decodeFrom_encodeChar, ih]

theorem encode_injective : Function.Injective encode :=
  Function.LeftInverse.injective decode_encode

/-! ## Reading anything -/

/-- A character of several bytes is no line end, whatever bytes follow. -/
structure Partial.Proper (p : Partial) : Prop where
  low : 0x80 ≤ p.low.toNat
  high : p.high.toNat ≤ 0xBF
  bits : 0x80 ≤ (p.bits * 0x40 + p.low.toNat % 0x40) * 0x40 ^ p.later

theorem eq_of_lead_whole {b : UInt8} {c : Char} (h : lead b = .whole c) :
    b.toNat < 0x80 ∧ c = Char.ofNat b.toNat := by
  unfold lead at h
  simp only [] at h
  split at h
  · cases h
    exact ⟨by assumption, rfl⟩
  · split at h
    · cases h
    split at h
    · cases h
    split at h
    · cases h
    split at h <;> cases h

theorem proper_of_lead {b : UInt8} {p : Partial} (h : lead b = .start p) : p.Proper := by
  unfold lead at h
  simp only [] at h
  split at h
  · cases h
  split at h
  · cases h
  split at h
  · obtain rfl := Lead.start.inj h
    exact ⟨by simp, by simp, by simp; omega⟩
  split at h
  · obtain rfl := Lead.start.inj h
    refine ⟨?_, ?_, ?_⟩ <;> simp only []
    · split <;> simp
    · split <;> simp
    · split <;> simp <;> omega
  split at h
  · obtain rfl := Lead.start.inj h
    refine ⟨?_, ?_, ?_⟩ <;> simp only []
    · split <;> simp
    · split <;> simp
    · split <;> simp <;> omega
  · cases h

/-- No number from 128 on gives an end of a line. -/
theorem ofNat_ne {n : Nat} (h : 0x80 ≤ n) : Char.ofNat n ≠ '\r' ∧ Char.ofNat n ≠ '\n' := by
  have hn : (Char.ofNat n).toNat = 0 ∨ 0x80 ≤ (Char.ofNat n).toNat := by
    by_cases hvalid : n.isValidChar
    · rw [Char.ofNat, dif_pos hvalid]
      exact .inr h
    · rw [Char.ofNat, dif_neg hvalid]
      exact .inl rfl
  constructor <;>
  · intro heq
    rw [heq] at hn
    simp at hn

theorem toNat_ofNat_of_lt {b : UInt8} (h : b.toNat < 0x80) :
    (Char.ofNat b.toNat).toNat = b.toNat := by
  have hvalid : b.toNat.isValidChar := .inl (by omega)
  rw [Char.ofNat, dif_pos hvalid]
  rfl

/-- The bytes that a character below 128 can be read from. -/
theorem eq_of_ofNat_toNat {b d : UInt8} (h : b.toNat < 0x80) (hd : d.toNat < 0x80)
    (heq : Char.ofNat b.toNat = Char.ofNat d.toNat) : b = d := by
  have := congrArg Char.toNat heq
  rw [toNat_ofNat_of_lt h, toNat_ofNat_of_lt hd] at this
  exact UInt8.toNat_inj.1 this

theorem decodeFrom_some_cons (p : Partial) (b : UInt8) (rest : List UInt8) :
    decodeFrom (some p) (b :: rest) =
      if p.low ≤ b ∧ b ≤ p.high then
        match p.later with
        | 0 => Char.ofNat (p.bits * 0x40 + b.toNat % 0x40) :: decodeFrom none rest
        | later + 1 =>
          decodeFrom (some ⟨p.bits * 0x40 + b.toNat % 0x40, later, 0x80, 0xBF⟩) rest
      else replacement :: decodeFrom none (b :: rest) := by
  obtain ⟨bits, later, low, high⟩ := p
  cases later <;> simp only [decodeFrom]

/-- A byte that is taken leaves a character that is no line end. -/
theorem Partial.Proper.le_bits {p : Partial} (h : p.Proper) {b : UInt8}
    (hb : p.low ≤ b ∧ b ≤ p.high) :
    0x80 ≤ (p.bits * 0x40 + b.toNat % 0x40) * 0x40 ^ p.later := by
  have hlow := h.low
  have hhigh := h.high
  rw [UInt8.le_iff_toNat_le, UInt8.le_iff_toNat_le] at hb
  exact h.bits.trans (Nat.mul_le_mul_right _ (by omega))

/-- The text has no line end if the bytes have none, and it begins with an LF only if they do. -/
theorem isChain_decodeFrom {state : Option Partial} (hproper : ∀ p ∈ state, p.Proper)
    {bytes : List UInt8} (h : bytes.IsChain fun b c => ¬ (b = cr ∧ c = lf)) :
    ((decodeFrom state bytes).IsChain fun c d => ¬ (c = '\r' ∧ d = '\n')) ∧
      ((decodeFrom state bytes).head? = some '\n' → state = none ∧ bytes.head? = some lf) := by
  induction bytes generalizing state with
  | nil =>
    cases state with
    | none => exact ⟨.nil, fun h => by cases h⟩
    | some p => exact ⟨.singleton _, fun h => by simp [decodeFrom, replacement] at h⟩
  | cons b rest ih =>
    obtain ⟨hhead, hrest⟩ := List.isChain_cons.1 h
    have hreplaced : ∀ {text : Text}, (text.IsChain fun c d => ¬ (c = '\r' ∧ d = '\n')) →
        ((replacement :: text).IsChain fun c d => ¬ (c = '\r' ∧ d = '\n')) := fun htext =>
      List.isChain_cons.2 ⟨fun _ _ heq => absurd heq.1 (by decide), htext⟩
    have hnone : ((decodeFrom none (b :: rest)).IsChain fun c d => ¬ (c = '\r' ∧ d = '\n')) ∧
        ((decodeFrom none (b :: rest)).head? = some '\n' → b = lf) := by
      obtain ⟨hchain, hlf⟩ := @ih none (fun p hp => by cases hp) hrest
      rw [decodeFrom]
      split
      · rename_i c hlead
        obtain ⟨hb, rfl⟩ := eq_of_lead_whole hlead
        refine ⟨List.isChain_cons.2 ⟨?_, hchain⟩, fun heq => ?_⟩
        · rintro d hd ⟨hc, rfl⟩
          exact hhead lf (hlf hd).2 ⟨eq_of_ofNat_toNat hb (by decide) hc, rfl⟩
        · exact eq_of_ofNat_toNat hb (by decide) (Option.some.inj heq)
      · rename_i p hlead
        obtain ⟨hchain, hlf⟩ := @ih (some p)
          (fun q hq => Option.some.inj hq ▸ proper_of_lead hlead) hrest
        exact ⟨hchain, fun heq => by cases (hlf heq).1⟩
      · exact ⟨hreplaced hchain, fun heq => absurd (Option.some.inj heq) (by decide)⟩
    cases state with
    | none => exact ⟨hnone.1, fun heq => ⟨rfl, congrArg some (hnone.2 heq)⟩⟩
    | some p =>
      have hp := hproper p rfl
      rw [decodeFrom_some_cons]
      split
      · rename_i hb
        have hbits := hp.le_bits hb
        cases hlater : p.later with
        | zero =>
          rw [hlater, Nat.pow_zero, Nat.mul_one] at hbits
          obtain ⟨hcr, hlf⟩ := ofNat_ne hbits
          obtain ⟨hchain, -⟩ := @ih none (fun p hp => by cases hp) hrest
          exact ⟨List.isChain_cons.2 ⟨fun _ _ heq => hcr heq.1, hchain⟩,
            fun heq => absurd (Option.some.inj heq) hlf⟩
        | succ later =>
          rw [hlater, Nat.pow_succ'] at hbits
          have hnext : Partial.Proper ⟨p.bits * 0x40 + b.toNat % 0x40, later, 0x80, 0xBF⟩ :=
            ⟨by simp, by simp, by simpa [Nat.mul_assoc] using hbits⟩
          obtain ⟨hchain, hlf⟩ := @ih (some _) (fun q hq => Option.some.inj hq ▸ hnext) hrest
          exact ⟨hchain, fun heq => by cases (hlf heq).1⟩
      · exact ⟨hreplaced hnone.1, fun heq => absurd (Option.some.inj heq) (by decide)⟩

/-- Bytes without a CR LF are read as a text without a line end. -/
theorem unbroken_decode {bytes : List UInt8} (h : EndFree bytes) : Unbroken (decode bytes) :=
  unbroken_iff.2 (isChain_decodeFrom (fun p hp => by cases hp) (endFree_iff.1 h)).1

end Utf8

end Ftp
