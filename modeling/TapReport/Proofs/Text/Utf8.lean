/-
  TapReport.Proofs.Text.Utf8
  ──────────────────────────
  **THE DECODER ACCEPTS WHAT ENCODING MAKES, AND NOTHING ELSE.**

  The decoder takes one byte after another and asks `progress` what the
  bytes since the last character are.  Here its answers are settled against
  the encoder: a character is recognised at its last byte and not before,
  and only from its own bytes.  From that follows what decoding any bytes
  leaves: the text whose bytes they begin with, and a rest that is the
  beginning of one more character at most.

  Main results:
    * `encodeChar_eq_utf8EncodeChar` — the bytes of a character are those of
      the core library.
    * `exists_isLast`, `IsLast.eq_encodeChar` — a character is recognised at
      the last of its bytes, and only from them.
    * `decode_eq_ok_iff` — what decoding gives and leaves.
    * `encode_prefix_encode_iff` — a text begins another exactly if its
      bytes begin the other's.
    * `exists_longestText` — bytes begin with a longest text.
-/
import Mathlib.Data.Nat.Find
import TapReport.Text.Utf8

namespace TapReport.Utf8

/-! ## §1. Bytes as numbers. -/

section Bytes

variable {a b c d : UInt8}

theorem toNat_continuation (n : Nat) : (continuation n).toNat = 0x80 + n % 0x40 := by
  unfold continuation
  rw [UInt8.toNat_ofNat']
  omega

theorem isContinuation_iff : isContinuation b = true ↔ 0x80 ≤ b.toNat ∧ b.toNat < 0xC0 := by
  simp [isContinuation, UInt8.le_iff_toNat_le, UInt8.lt_iff_toNat_lt]

theorem isSurrogate_iff :
    isSurrogate a b = true ↔ a.toNat = 0xED ∧ 0xA0 ≤ b.toNat ∧ b.toNat < 0xC0 := by
  simp [isSurrogate, UInt8.le_iff_toNat_le, UInt8.lt_iff_toNat_lt, ← UInt8.toNat_inj, and_assoc]

theorem mayFollow_iff : mayFollow a b = true ↔
    (0x80 ≤ b.toNat ∧ b.toNat < 0xC0) ∧ (a.toNat = 0xE0 → 0xA0 ≤ b.toNat)
      ∧ (a.toNat = 0xF0 → 0x90 ≤ b.toNat) ∧ (a.toNat = 0xF4 → b.toNat < 0x90) := by
  simp only [mayFollow, Bool.and_eq_true, isContinuation_iff, Bool.not_eq_true',
    Bool.and_eq_false_imp, beq_iff_eq, decide_eq_false_iff_not, UInt8.le_iff_toNat_le,
    UInt8.lt_iff_toNat_lt, ← UInt8.toNat_inj, UInt8.reduceToNat]
  omega

/-! What one, two, three and four bytes are. -/

theorem progress_one_incomplete_iff :
    progress [a] = .incomplete ↔ 0xC2 ≤ a.toNat ∧ a.toNat < 0xF5 := by
  simp only [progress, Bool.or_eq_true, decide_eq_true_eq, UInt8.le_iff_toNat_le,
    UInt8.lt_iff_toNat_lt, UInt8.reduceToNat]
  split
  · simp; omega
  · split
    · simp; omega
    · simp; omega

theorem progress_one_complete_iff {x : Char} :
    progress [a] = .complete x ↔ a.toNat < 0x80 ∧ Char.ofNat a.toNat = x := by
  simp only [progress, Bool.or_eq_true, decide_eq_true_eq, UInt8.le_iff_toNat_le,
    UInt8.lt_iff_toNat_lt, UInt8.reduceToNat]
  split
  · simp; omega
  · split
    · simp; omega
    · simp; omega

theorem progress_two_incomplete_iff :
    progress [a, b] = .incomplete ↔ mayFollow a b = true ∧ 0xE0 ≤ a.toNat := by
  simp only [progress, Bool.not_eq_true', UInt8.lt_iff_toNat_lt, UInt8.reduceToNat]
  split
  · next h => simp [h]
  · next h =>
    rw [Bool.not_eq_false] at h
    split
    · simp; omega
    · simp [h]; omega

theorem progress_two_complete_iff {x : Char} :
    progress [a, b] = .complete x ↔
      mayFollow a b = true ∧ a.toNat < 0xE0 ∧ assemble (a.toNat - 0xC0) [b] = x := by
  simp only [progress, Bool.not_eq_true', UInt8.lt_iff_toNat_lt, UInt8.reduceToNat]
  split
  · next h => simp [h]
  · next h =>
    rw [Bool.not_eq_false] at h
    split
    · next hlt => simp [h, hlt]
    · next hlt => simp [hlt]

theorem progress_three_incomplete_iff :
    progress [a, b, c] = .incomplete ↔
      isSurrogate a b = false ∧ isContinuation c = true ∧ 0xF0 ≤ a.toNat := by
  simp only [progress, Bool.not_eq_true', UInt8.lt_iff_toNat_lt, UInt8.reduceToNat]
  split
  · next hs => simp [hs]
  · next hs =>
    rw [Bool.not_eq_true] at hs
    split
    · next hc => simp [hc]
    · next hc =>
      rw [Bool.not_eq_false] at hc
      split
      · simp; omega
      · simp [hs, hc]; omega

theorem progress_three_complete_iff {x : Char} :
    progress [a, b, c] = .complete x ↔
      isSurrogate a b = false ∧ isContinuation c = true ∧ a.toNat < 0xF0
        ∧ assemble (a.toNat - 0xE0) [b, c] = x := by
  simp only [progress, Bool.not_eq_true', UInt8.lt_iff_toNat_lt, UInt8.reduceToNat]
  split
  · next hs => simp [hs]
  · next hs =>
    rw [Bool.not_eq_true] at hs
    split
    · next hc => simp [hc]
    · next hc =>
      rw [Bool.not_eq_false] at hc
      split
      · next hlt => simp [hs, hc, hlt]
      · next hlt => simp [hlt]

theorem progress_four_complete_iff {more : Bytes} {x : Char} :
    progress (a :: b :: c :: d :: more) = .complete x ↔
      isContinuation d = true ∧ assemble (a.toNat - 0xF0) [b, c, d] = x := by
  simp only [progress]
  split
  · next h => simp [h]
  · next h => simp [h]

theorem progress_four_ne_incomplete {more : Bytes} :
    progress (a :: b :: c :: d :: more) ≠ .incomplete := by
  simp only [progress]
  split <;> simp

end Bytes

/-! ## §2. The bytes of a character. -/

/-- A character has a number that is none of a surrogate. -/
theorem toNat_valid (c : Char) :
    c.toNat < 0xD800 ∨ (0xDFFF < c.toNat ∧ c.toNat < 0x110000) := c.valid

theorem toNat_ofNat_of_valid {n : Nat} (h : n < 0xD800 ∨ (0xDFFF < n ∧ n < 0x110000)) :
    (Char.ofNat n).toNat = n := by
  have hv : n.isValidChar := h
  unfold Char.ofNat
  rw [dif_pos hv]
  rfl

/-! The bytes of a character, by its range. -/

theorem encodeChar_two {c : Char} (h1 : 0x80 ≤ c.toNat) (h2 : c.toNat < 0x800) :
    encodeChar c = [UInt8.ofNat (0xC0 + c.toNat / 0x40), continuation c.toNat] := by
  unfold encodeChar
  rw [if_neg (Nat.not_lt.mpr h1), if_pos h2]

theorem encodeChar_three {c : Char} (h2 : 0x800 ≤ c.toNat) (h3 : c.toNat < 0x10000) :
    encodeChar c = [UInt8.ofNat (0xE0 + c.toNat / 0x1000), continuation (c.toNat / 0x40),
      continuation c.toNat] := by
  have h1 : ¬ c.toNat < 0x80 := by omega
  unfold encodeChar
  rw [if_neg h1, if_neg (Nat.not_lt.mpr h2), if_pos h3]

theorem encodeChar_four {c : Char} (h3 : 0x10000 ≤ c.toNat) :
    encodeChar c = [UInt8.ofNat (0xF0 + c.toNat / 0x40000), continuation (c.toNat / 0x1000),
      continuation (c.toNat / 0x40), continuation c.toNat] := by
  have h1 : ¬ c.toNat < 0x80 := by omega
  have h2 : ¬ c.toNat < 0x800 := by omega
  unfold encodeChar
  rw [if_neg h1, if_neg h2, if_neg (Nat.not_lt.mpr h3)]

/-- **The bytes of a character** are those of the core library. -/
theorem encodeChar_eq_utf8EncodeChar (c : Char) : encodeChar c = String.utf8EncodeChar c := by
  have hvalid := toNat_valid c
  have hsame : ∀ m, continuation m = UInt8.ofNat (m % 0x40 + 0x80) := by
    intro m
    unfold continuation
    rw [Nat.add_comm]
  unfold String.utf8EncodeChar
  simp only [Char.toNat_val, ← hsame]
  by_cases h1 : c.toNat < 0x80
  · have h1' : c.toNat ≤ 0x7F := by omega
    rw [encodeChar_ascii h1, if_pos h1']
  · have h1' : ¬ c.toNat ≤ 0x7F := by omega
    rw [if_neg h1']
    by_cases h2 : c.toNat < 0x800
    · have h2' : c.toNat ≤ 0x7FF := by omega
      have hfirst : 0xC0 + c.toNat / 0x40 = c.toNat / 64 % 0x20 + 0xC0 := by omega
      rw [encodeChar_two (by omega) h2, if_pos h2', hfirst]
    · have h2' : ¬ c.toNat ≤ 0x7FF := by omega
      rw [if_neg h2']
      by_cases h3 : c.toNat < 0x10000
      · have h3' : c.toNat ≤ 0xFFFF := by omega
        have hfirst : 0xE0 + c.toNat / 0x1000 = c.toNat / 4096 % 0x10 + 0xE0 := by omega
        rw [encodeChar_three (by omega) h3, if_pos h3', hfirst]
      · have h3' : ¬ c.toNat ≤ 0xFFFF := by omega
        have hfirst : 0xF0 + c.toNat / 0x40000 = c.toNat / 262144 % 0x08 + 0xF0 := by omega
        rw [encodeChar_four (by omega), if_neg h3', hfirst]

/-! ## §3. Recognising a character. -/

/-- Bytes that the decoder keeps: up to none of them they were a character, or
malformed. -/
def Pending (p : Bytes) : Prop :=
  ∀ q, q <+: p → progress q = .incomplete

theorem pending_nil : Pending [] := by
  intro q hq
  rw [List.prefix_nil.mp hq]
  rfl

theorem Pending.concat {p : Bytes} (h : Pending p) {b : UInt8}
    (hb : progress (p ++ [b]) = .incomplete) : Pending (p ++ [b]) := by
  intro q hq
  rcases List.prefix_concat_iff.mp hq with rfl | hq
  · exact hb
  · exact h q hq

theorem Pending.of_prefix {p q : Bytes} (h : Pending p) (hq : q <+: p) : Pending q :=
  fun r hr => h r (hr.trans hq)

theorem Pending.progress_eq {p : Bytes} (h : Pending p) : progress p = .incomplete :=
  h p (List.prefix_refl p)

/-- The character with the bits of some bytes, from its number. -/
theorem assemble_eq {first : Nat} {rest : Bytes} {c : Char}
    (h : rest.foldl (fun n b => 0x40 * n + (b.toNat - 0x80)) first = c.toNat) :
    assemble first rest = c := by
  unfold assemble
  rw [h, Char.ofNat_toNat]

/-- The number of a character, from the bits of some bytes. -/
theorem toNat_of_assemble {first n : Nat} {rest : Bytes} {c : Char}
    (hc : assemble first rest = c)
    (h : rest.foldl (fun n b => 0x40 * n + (b.toNat - 0x80)) first = n)
    (hn : n < 0xD800 ∨ (0xDFFF < n ∧ n < 0x110000)) : c.toNat = n := by
  rw [← hc, assemble, h, toNat_ofNat_of_valid hn]

/-! Which bytes are kept: those that a first byte allows. -/

theorem pending_one {a : UInt8} (ha : 0xC2 ≤ a.toNat) (ha' : a.toNat < 0xF5) : Pending [a] :=
  pending_nil.concat (progress_one_incomplete_iff.mpr ⟨ha, ha'⟩)

theorem pending_two {a b : UInt8} (ha : 0xE0 ≤ a.toNat) (ha' : a.toNat < 0xF5)
    (hb : mayFollow a b = true) : Pending [a, b] :=
  (pending_one (by omega) ha').concat (progress_two_incomplete_iff.mpr ⟨hb, ha⟩)

theorem pending_three {a b c : UInt8} (ha : 0xF0 ≤ a.toNat) (ha' : a.toNat < 0xF5)
    (hb : mayFollow a b = true) (hc : isContinuation c = true) : Pending [a, b, c] := by
  have hno : isSurrogate a b = false := by
    rw [← Bool.not_eq_true, isSurrogate_iff]
    omega
  exact (pending_two (by omega) ha' hb).concat (progress_three_incomplete_iff.mpr ⟨hno, hc, ha⟩)

/-- Bytes that are a character at the last of them, and were none before. -/
def IsLast (p : Bytes) (b : UInt8) (c : Char) : Prop :=
  Pending p ∧ progress (p ++ [b]) = .complete c

theorem isLast_ascii {c : Char} (h : c.toNat < 0x80) : IsLast [] (UInt8.ofNat c.toNat) c := by
  have ha : (UInt8.ofNat c.toNat).toNat = c.toNat := by rw [UInt8.toNat_ofNat']; omega
  exact ⟨pending_nil, progress_one_complete_iff.mpr ⟨by omega, by rw [ha, Char.ofNat_toNat]⟩⟩

theorem isLast_two {c : Char} (h1 : 0x80 ≤ c.toNat) (h2 : c.toNat < 0x800) :
    IsLast [UInt8.ofNat (0xC0 + c.toNat / 0x40)] (continuation c.toNat) c := by
  generalize ha' : UInt8.ofNat (0xC0 + c.toNat / 0x40) = a
  have ha : a.toNat = 0xC0 + c.toNat / 0x40 := by rw [← ha', UInt8.toNat_ofNat']; omega
  have hb := toNat_continuation c.toNat
  refine ⟨pending_one (by omega) (by omega), ?_⟩
  refine progress_two_complete_iff.mpr ⟨mayFollow_iff.mpr (by omega), by omega, assemble_eq ?_⟩
  simp only [List.foldl_cons, List.foldl_nil]
  omega

theorem isLast_three {c : Char} (h2 : 0x800 ≤ c.toNat) (h3 : c.toNat < 0x10000) :
    IsLast [UInt8.ofNat (0xE0 + c.toNat / 0x1000), continuation (c.toNat / 0x40)]
      (continuation c.toNat) c := by
  have hvalid := toNat_valid c
  generalize ha' : UInt8.ofNat (0xE0 + c.toNat / 0x1000) = a
  have ha : a.toNat = 0xE0 + c.toNat / 0x1000 := by rw [← ha', UInt8.toNat_ofNat']; omega
  have hb := toNat_continuation (c.toNat / 0x40)
  have hd := toNat_continuation c.toNat
  have hno : isSurrogate a (continuation (c.toNat / 0x40)) = false := by
    rw [← Bool.not_eq_true, isSurrogate_iff]
    omega
  refine ⟨pending_two (by omega) (by omega) (mayFollow_iff.mpr (by omega)), ?_⟩
  refine progress_three_complete_iff.mpr
    ⟨hno, isContinuation_iff.mpr (by omega), by omega, assemble_eq ?_⟩
  simp only [List.foldl_cons, List.foldl_nil]
  omega

theorem isLast_four {c : Char} (h3 : 0x10000 ≤ c.toNat) :
    IsLast [UInt8.ofNat (0xF0 + c.toNat / 0x40000), continuation (c.toNat / 0x1000),
      continuation (c.toNat / 0x40)] (continuation c.toNat) c := by
  have hvalid := toNat_valid c
  generalize ha' : UInt8.ofNat (0xF0 + c.toNat / 0x40000) = a
  have ha : a.toNat = 0xF0 + c.toNat / 0x40000 := by rw [← ha', UInt8.toNat_ofNat']; omega
  have hb := toNat_continuation (c.toNat / 0x1000)
  have hd := toNat_continuation (c.toNat / 0x40)
  have he := toNat_continuation c.toNat
  refine ⟨pending_three (by omega) (by omega) (mayFollow_iff.mpr (by omega))
    (isContinuation_iff.mpr (by omega)), ?_⟩
  refine progress_four_complete_iff.mpr ⟨isContinuation_iff.mpr (by omega), assemble_eq ?_⟩
  simp only [List.foldl_cons, List.foldl_nil]
  omega

/-- **A character is recognised at its last byte** and not before. -/
theorem exists_isLast (c : Char) : ∃ p b, encodeChar c = p ++ [b] ∧ IsLast p b c := by
  by_cases h1 : c.toNat < 0x80
  · exact ⟨_, _, encodeChar_ascii h1, isLast_ascii h1⟩
  by_cases h2 : c.toNat < 0x800
  · exact ⟨_, _, encodeChar_two (by omega) h2, isLast_two (by omega) h2⟩
  by_cases h3 : c.toNat < 0x10000
  · exact ⟨_, _, encodeChar_three (by omega) h3, isLast_three (by omega) h3⟩
  · exact ⟨_, _, encodeChar_four (by omega), isLast_four (by omega)⟩

theorem ofNat_eq {b : UInt8} {n : Nat} (h : n = b.toNat) : UInt8.ofNat n = b := by
  rw [h, UInt8.ofNat_toNat]

theorem continuation_eq {b : UInt8} {n : Nat} (h : 0x80 + n % 0x40 = b.toNat) :
    continuation n = b :=
  ofNat_eq h

/-! Bytes that are a character are its bytes, by their count.  What the bytes
before the last one were rules out overlong forms, surrogates and numbers that
are too great. -/

section OwnBytes

variable {a b c d : UInt8} {x : Char}

theorem encodeChar_of_one (hx : progress [a] = .complete x) : encodeChar x = [a] := by
  obtain ⟨ha, rfl⟩ := progress_one_complete_iff.mp hx
  have hn : (Char.ofNat a.toNat).toNat = a.toNat := toNat_ofNat_of_valid (by omega)
  rw [encodeChar_ascii (by omega), ofNat_eq hn]

theorem encodeChar_of_two (hp : Pending [a]) (hx : progress [a, b] = .complete x) :
    encodeChar x = [a, b] := by
  have ha := progress_one_incomplete_iff.mp hp.progress_eq
  obtain ⟨hf, hlt, hx⟩ := progress_two_complete_iff.mp hx
  have hb := mayFollow_iff.mp hf
  have hn : x.toNat = 0x40 * (a.toNat - 0xC0) + (b.toNat - 0x80) :=
    toNat_of_assemble hx rfl (by omega)
  rw [encodeChar_two (by omega) (by omega), ofNat_eq (b := a) (by omega),
      continuation_eq (b := b) (by omega)]

theorem encodeChar_of_three (hp : Pending [a, b]) (hx : progress [a, b, c] = .complete x) :
    encodeChar x = [a, b, c] := by
  have ha := progress_one_incomplete_iff.mp (hp [a] ⟨[b], rfl⟩)
  obtain ⟨hf, hge⟩ := progress_two_incomplete_iff.mp hp.progress_eq
  obtain ⟨hno, hcont, hlt, hx⟩ := progress_three_complete_iff.mp hx
  have hb := mayFollow_iff.mp hf
  have hc := isContinuation_iff.mp hcont
  rw [← Bool.not_eq_true, isSurrogate_iff] at hno
  have hn : x.toNat
      = 0x40 * (0x40 * (a.toNat - 0xE0) + (b.toNat - 0x80)) + (c.toNat - 0x80) :=
    toNat_of_assemble hx rfl (by omega)
  rw [encodeChar_three (by omega) (by omega), ofNat_eq (b := a) (by omega),
      continuation_eq (b := b) (by omega), continuation_eq (b := c) (by omega)]

theorem encodeChar_of_four (hp : Pending [a, b, c]) (hx : progress [a, b, c, d] = .complete x) :
    encodeChar x = [a, b, c, d] := by
  have ha := progress_one_incomplete_iff.mp (hp [a] ⟨[b, c], rfl⟩)
  obtain ⟨hf, -⟩ := progress_two_incomplete_iff.mp (hp [a, b] ⟨[c], rfl⟩)
  obtain ⟨-, hcont, hge⟩ := progress_three_incomplete_iff.mp hp.progress_eq
  obtain ⟨hlast, hx⟩ := progress_four_complete_iff.mp hx
  have hb := mayFollow_iff.mp hf
  have hc := isContinuation_iff.mp hcont
  have hd := isContinuation_iff.mp hlast
  have hn : x.toNat = 0x40 * (0x40 * (0x40 * (a.toNat - 0xF0) + (b.toNat - 0x80))
      + (c.toNat - 0x80)) + (d.toNat - 0x80) := toNat_of_assemble hx rfl (by omega)
  rw [encodeChar_four (by omega), ofNat_eq (b := a) (by omega),
      continuation_eq (b := b) (by omega), continuation_eq (b := c) (by omega),
      continuation_eq (b := d) (by omega)]

end OwnBytes

/-- **Only its own bytes are a character.** -/
theorem IsLast.eq_encodeChar {p : Bytes} {b : UInt8} {x : Char} (h : IsLast p b x) :
    encodeChar x = p ++ [b] := by
  obtain ⟨hp, hx⟩ := h
  match p, hp with
  | [], _ => exact encodeChar_of_one hx
  | [_], hp => exact encodeChar_of_two hp hx
  | [_, _], hp => exact encodeChar_of_three hp hx
  | [_, _, _], hp => exact encodeChar_of_four hp hx
  -- four bytes are never kept
  | _ :: _ :: _ :: _ :: _, hp => exact absurd hp.progress_eq progress_four_ne_incomplete

/-! ## §4. Decoding. -/

section Decoding

variable {p q b rest : Bytes} {t u : Text} {position : Nat} {found : Text}

@[simp] theorem encode_nil : encode [] = [] := rfl

theorem encode_cons (c : Char) (t : Text) : encode (c :: t) = encodeChar c ++ encode t :=
  List.flatMap_cons

theorem encode_append (t u : Text) : encode (t ++ u) = encode t ++ encode u :=
  List.flatMap_append

/-- Bytes that are kept are only moved. -/
theorem decodeFrom_of_pending (h : Pending (p ++ q)) (rest : Bytes) :
    decodeFrom position p found (q ++ rest) = decodeFrom position (p ++ q) found rest := by
  -- each byte of `q` joins the bytes that are kept
  induction q generalizing p with
  | nil => rw [List.append_nil, List.nil_append]
  | cons x q ih =>
    have hx : p ++ x :: q = (p ++ [x]) ++ q := List.append_cons p x q
    rw [hx] at h ⊢
    rw [List.cons_append, decodeFrom, (h.of_prefix (List.prefix_append _ q)).progress_eq]
    exact ih h

theorem decodeFrom_nil_of_pending (h : Pending q) :
    decodeFrom position [] found q = .ok (found.reverse, q) := by
  have hkept : decodeFrom position [] found (q ++ []) = decodeFrom position q found [] :=
    decodeFrom_of_pending (p := []) h []
  rw [List.append_nil] at hkept
  rw [hkept]
  rfl

theorem decodeFrom_encodeChar (c : Char) (rest : Bytes) :
    decodeFrom position [] found (encodeChar c ++ rest)
      = decodeFrom (position + (encodeChar c).length) [] (c :: found) rest := by
  obtain ⟨p, x, hbytes, hp, hx⟩ := exists_isLast c
  rw [hbytes, List.append_assoc, decodeFrom_of_pending (p := []) hp, List.nil_append,
      List.singleton_append, decodeFrom, hx, List.length_append, List.length_singleton,
      Nat.add_assoc]

/-- The bytes of a text decode to it. -/
theorem decodeFrom_encode (t : Text) (rest : Bytes) :
    decodeFrom position [] found (encode t ++ rest)
      = decodeFrom (position + (encode t).length) [] (t.reverse ++ found) rest := by
  induction t generalizing position found with
  | nil => rfl
  | cons c t ih =>
    rw [encode_cons, List.append_assoc, decodeFrom_encodeChar, ih, List.length_append,
        Nat.add_assoc, List.reverse_cons, List.append_assoc, List.singleton_append]

/-- What decoding gives was encoded, and what it leaves is kept. -/
theorem exists_of_decodeFrom (hp : Pending p)
    (h : decodeFrom position p found b = .ok (t, q)) :
    ∃ u, t = found.reverse ++ u ∧ p ++ b = encode u ++ q ∧ Pending q := by
  -- induction on the bytes, as the decoder takes them; what is kept is pending
  -- at every step
  induction b generalizing position p found with
  | nil =>
    rw [decodeFrom] at h
    obtain ⟨rfl, rfl⟩ : found.reverse = t ∧ p = q := by simpa using h
    exact ⟨[], by simp, by simp, hp⟩
  | cons x b ih =>
    rw [decodeFrom] at h
    split at h
    · next c hx =>
      -- a character is complete, and nothing is kept after it
      have hbytes := IsLast.eq_encodeChar ⟨hp, hx⟩
      obtain ⟨u, rfl, hrest, hq⟩ := ih pending_nil h
      refine ⟨c :: u, by simp, ?_, hq⟩
      rw [List.append_cons, ← hbytes, encode_cons, List.append_assoc, ← hrest, List.nil_append]
    · next hx =>
      obtain ⟨u, rfl, hrest, hq⟩ := ih (hp.concat hx) h
      exact ⟨u, rfl, by rw [List.append_cons, hrest], hq⟩
    · exact absurd h (by simp)

/-- **What decoding leaves.**  After bytes that are kept, decoding gives the
text whose bytes they and the new ones begin with, up to bytes that are kept
again. -/
theorem decode_eq_ok_iff (hp : Pending p) :
    decode p b = .ok (t, q) ↔ p ++ b = encode t ++ q ∧ Pending q := by
  constructor
  · intro h
    obtain ⟨u, rfl, hbytes, hq⟩ := exists_of_decodeFrom hp h
    exact ⟨hbytes, hq⟩
  · intro h
    obtain ⟨hbytes, hq⟩ := h
    -- decoding `b` after `p` is decoding both, and these begin with the text
    have hmove : decodeFrom 0 [] [] (p ++ b) = decodeFrom 0 p [] b :=
      decodeFrom_of_pending (p := []) hp b
    unfold decode
    rw [← hmove, hbytes, decodeFrom_encode, decodeFrom_nil_of_pending hq, List.append_nil,
        List.reverse_reverse]

theorem decode_encode (t : Text) : decode [] (encode t) = .ok (t, []) :=
  (decode_eq_ok_iff pending_nil).mpr ⟨by simp, pending_nil⟩

/-- Bytes that do not decode do not decode with more after them. -/
theorem decodeFrom_append_of_error {e : Malformed}
    (h : decodeFrom position p found b = .error e) (rest : Bytes) :
    decodeFrom position p found (b ++ rest) = .error e := by
  induction b generalizing position p found with
  | nil => exact absurd h (by simp [decodeFrom])
  | cons x b ih =>
    rw [decodeFrom] at h
    rw [List.cons_append, decodeFrom]
    split at h
    · exact ih h
    · exact ih h
    · exact h

end Decoding

/-! ## §5. Texts and their bytes. -/

/-- Bytes that are those of a text. -/
def IsText (b : Bytes) : Prop :=
  ∃ t, encode t = b

/-- A text, and bytes kept after it, are determined by the bytes of both. -/
theorem encode_append_inj {t u : Text} {p q : Bytes} (hp : Pending p) (hq : Pending q)
    (h : encode t ++ p = encode u ++ q) : t = u ∧ p = q := by
  have ht := (decode_eq_ok_iff pending_nil (b := encode t ++ p)).mpr ⟨rfl, hp⟩
  have hu := (decode_eq_ok_iff pending_nil (b := encode t ++ p)).mpr ⟨h, hq⟩
  rw [ht] at hu
  simpa using hu

theorem encode_inj {t u : Text} : encode t = encode u ↔ t = u := by
  constructor
  · intro h
    rw [← List.append_nil (encode t), ← List.append_nil (encode u)] at h
    exact (encode_append_inj pending_nil pending_nil h).1
  · exact congrArg encode

/-- **A text begins another** exactly if its bytes begin the other's. -/
theorem encode_prefix_encode_iff {t u : Text} : encode t <+: encode u ↔ t <+: u := by
  constructor
  · intro h
    obtain ⟨rest, hrest⟩ := h
    have hu := decode_encode u
    unfold decode at hu
    rw [← hrest, decodeFrom_encode] at hu
    obtain ⟨more, rfl, -⟩ := exists_of_decodeFrom pending_nil hu
    exact ⟨more, by simp⟩
  · intro h
    obtain ⟨more, rfl⟩ := h
    exact ⟨encode more, (encode_append t more).symm⟩

/-- After a text and bytes kept, nothing that does not decode makes a text and
bytes kept. -/
theorem append_ne_of_decode_error {t u : Text} {p q b : Bytes} (hp : Pending p) (hq : Pending q)
    {e : Malformed} (h : decode p b = .error e) (rest : Bytes) :
    encode t ++ (p ++ b) ++ rest ≠ encode u ++ q := by
  intro hbytes
  have hfirst : decode [] (encode t ++ p) = .ok (t, p) :=
    (decode_eq_ok_iff pending_nil).mpr ⟨rfl, hp⟩
  have herror : decode p (b ++ rest) = .error e := decodeFrom_append_of_error h rest
  -- decoding all at once would have to go wrong at the same place
  have hwhole : decode [] ((encode t ++ p) ++ (b ++ rest)) = .ok (u, q) := by
    rw [decode_eq_ok_iff pending_nil]
    exact ⟨by rw [← hbytes]; simp, hq⟩
  have happend : (decode [] ((encode t ++ p) ++ (b ++ rest))).toOption = _ := decode_append hfirst
  rw [hwhole, herror] at happend
  exact absurd happend (by simp [Except.map, Except.toOption])

theorem not_isText_of_decode_error {t : Text} {p b : Bytes} (hp : Pending p) {e : Malformed}
    (h : decode p b = .error e) (rest : Bytes) : ¬ IsText (encode t ++ (p ++ b) ++ rest) := by
  intro htext
  obtain ⟨u, hu⟩ := htext
  apply append_ne_of_decode_error hp pending_nil h rest (u := u)
  rw [List.append_nil]
  exact hu.symm

/-- A text and bytes kept after it make no text, unless there are none. -/
theorem not_isText_of_pending {t : Text} {p : Bytes} (hp : Pending p) (hne : p ≠ []) :
    ¬ IsText (encode t ++ p) := by
  intro h
  obtain ⟨u, hu⟩ := h
  rw [← List.append_nil (encode u)] at hu
  exact hne (encode_append_inj pending_nil hp hu).2.symm

/-- **Decoding as a whole** succeeds exactly with the bytes of a text. -/
theorem decodeAll_eq_ok_iff {b : Bytes} {t : Text} : decodeAll b = .ok t ↔ encode t = b := by
  have hrest : ∀ {p : Bytes}, unfinished? p = none → p = [] := by
    intro p hp
    unfold unfinished? at hp
    split at hp
    · rfl
    · split at hp <;> exact absurd hp (by simp)
    · exact absurd hp (by simp)
  unfold decodeAll
  constructor
  · intro h
    cases hd : decode [] b with
    | error e => rw [hd] at h; exact absurd h (by simp)
    | ok found =>
      obtain ⟨u, pending⟩ := found
      rw [hd] at h
      cases hp : unfinished? pending with
      | some flaw => simp only [hp] at h; exact absurd h (by simp)
      | none =>
        simp only [hp] at h
        obtain rfl : u = t := by simpa using h
        obtain ⟨hbytes, -⟩ := (decode_eq_ok_iff pending_nil).mp hd
        rw [hrest hp, List.append_nil] at hbytes
        exact hbytes.symm
  · intro h
    subst h
    rw [decode_encode]
    rfl

/-- The longest text that bytes begin with. -/
structure IsLongestText (b : Bytes) (t : Text) : Prop where
  /-- The bytes begin with it. -/
  encode_prefix : encode t <+: b
  /-- No other text that they begin with has more bytes. -/
  longest : ∀ u, encode u <+: b → (encode u).length ≤ (encode t).length

/-- Every text that bytes begin with begins the longest one. -/
theorem IsLongestText.prefix_of_encode_prefix {b : Bytes} {t u : Text} (h : IsLongestText b t)
    (hu : encode u <+: b) : u <+: t :=
  encode_prefix_encode_iff.mp
    (List.prefix_of_prefix_length_le hu h.encode_prefix (h.longest u hu))

/-- **Bytes begin with a longest text.** -/
theorem exists_longestText (b : Bytes) : ∃ t, IsLongestText b t := by
  classical
  -- the greatest count of bytes that are those of a text
  have hzero : ∃ t, encode t <+: b ∧ (encode t).length = 0 := ⟨[], List.nil_prefix, rfl⟩
  obtain ⟨t, ht, hlength⟩ := Nat.findGreatest_spec
    (P := fun n => ∃ t, encode t <+: b ∧ (encode t).length = n) (Nat.zero_le b.length) hzero
  refine ⟨t, ht, ?_⟩
  intro u hu
  rw [hlength]
  exact Nat.le_findGreatest hu.length_le ⟨u, hu, rfl⟩

end TapReport.Utf8
