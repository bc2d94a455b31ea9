/-
  TapReport.Text.Utf8
  ───────────────────
  **UTF-8, ONE BYTE AT A TIME.**

  A decoder holds the bytes of a character that is not complete yet.  With
  each further byte these make a character, may still become one, or are
  malformed; nothing else has to be remembered, so the places where the
  bytes were cut into pieces leave no trace in the text.

  A lone half of a surrogate pair is never a character.  Its first two bytes
  are still taken as the beginning of one, and refused with the next byte or
  at the end.

  Main results:
    * `encodeChar_ascii` — an ASCII character is its own byte.
    * `decodeFrom_position` — where a piece stands changes positions only.
    * `decode_append` — decoding in two pieces is decoding the whole.
-/
import TapReport.Text.Basic

namespace TapReport

/-- A sequence of bytes. -/
abbrev Bytes := List UInt8

namespace Utf8

/-! ## §1. Encoding. -/

/-- A continuation byte with the six low bits of `n`. -/
def continuation (n : Nat) : UInt8 :=
  UInt8.ofNat (0x80 + n % 0x40)

/-- The bytes of a character. -/
def encodeChar (c : Char) : Bytes :=
  let n := c.toNat
  if n < 0x80 then [UInt8.ofNat n]
  else if n < 0x800 then [UInt8.ofNat (0xC0 + n / 0x40), continuation n]
  else if n < 0x10000 then
    [UInt8.ofNat (0xE0 + n / 0x1000), continuation (n / 0x40), continuation n]
  else
    [UInt8.ofNat (0xF0 + n / 0x40000), continuation (n / 0x1000), continuation (n / 0x40),
      continuation n]

/-- The bytes of a text. -/
def encode (t : Text) : Bytes :=
  t.flatMap encodeChar

/-- An ASCII character is one byte, its number. -/
theorem encodeChar_ascii {c : Char} (h : c.toNat < 0x80) : encodeChar c = [UInt8.ofNat c.toNat] := by
  simp [encodeChar, h]

/-! ## §2. The bytes of one character. -/

/-- Why bytes are no character. -/
inductive Flaw where
  /-- No character begins with the first byte. -/
  | start
  /-- The bytes so far are not continued. -/
  | notContinued
  /-- The text ends inside a character. -/
  | unfinished
  deriving DecidableEq, Repr

/-- What some bytes are, read from the beginning of a character. -/
inductive Progress where
  /-- A character. -/
  | complete (c : Char)
  /-- The beginning of one. -/
  | incomplete
  /-- Neither; the first `length` bytes are to blame. -/
  | malformed (length : Nat) (flaw : Flaw)
  deriving DecidableEq, Repr

/-- Whether a byte continues a character. -/
def isContinuation (b : UInt8) : Bool :=
  0x80 ≤ b && b < 0xC0

/-- Whether two bytes begin a half of a surrogate pair. -/
def isSurrogate (a b : UInt8) : Bool :=
  a == 0xED && 0xA0 ≤ b && b < 0xC0

/-- Whether `b` may follow the first byte `a`: overlong forms and numbers
above the last character are excluded here. -/
def mayFollow (a b : UInt8) : Bool :=
  isContinuation b && !(a == 0xE0 && b < 0xA0) && !(a == 0xF0 && b < 0x90)
    && !(a == 0xF4 && 0x90 ≤ b)

/-- The character with the bits of a first byte and of continuation bytes. -/
def assemble (first : Nat) (rest : Bytes) : Char :=
  Char.ofNat (rest.foldl (fun n b => 0x40 * n + (b.toNat - 0x80)) first)

/-- What up to four bytes are, if all but the last are the beginning of a
character. -/
def progress : Bytes → Progress
  | [] => .incomplete
  | [a] =>
    if a < 0x80 then .complete (Char.ofNat a.toNat)
    else if a < 0xC2 || 0xF5 ≤ a then .malformed 1 .start
    else .incomplete
  | [a, b] =>
    if !mayFollow a b then .malformed 1 .notContinued
    else if a < 0xE0 then .complete (assemble (a.toNat - 0xC0) [b])
    else .incomplete
  | [a, b, c] =>
    if isSurrogate a b then .malformed 1 .notContinued
    else if !isContinuation c then .malformed 2 .notContinued
    else if a < 0xF0 then .complete (assemble (a.toNat - 0xE0) [b, c])
    else .incomplete
  | a :: b :: c :: d :: _ =>
    if isContinuation d then .complete (assemble (a.toNat - 0xF0) [b, c, d])
    else .malformed 3 .notContinued

/-! ## §3. Decoding. -/

/-- Bytes that are no text: where they are, and what is wrong. -/
structure Malformed where
  /-- The index of the first byte to blame. -/
  position : Nat
  /-- The bytes to blame. -/
  bytes : Bytes
  /-- What is wrong with them. -/
  flaw : Flaw
  deriving DecidableEq, Repr

/-- Decodes bytes after the `pending` beginning of a character, which starts
at `position`; `found` holds the characters before it, the latest first.
Gives the text and the bytes of a character that is not complete. -/
def decodeFrom (position : Nat) (pending : Bytes) (found : Text) :
    Bytes → Except Malformed (Text × Bytes)
  | [] => .ok (found.reverse, pending)
  | b :: rest =>
    match progress (pending ++ [b]) with
    | .complete c => decodeFrom (position + pending.length + 1) [] (c :: found) rest
    | .incomplete => decodeFrom position (pending ++ [b]) found rest
    | .malformed length flaw =>
      .error ⟨position, (pending ++ [b]).take length, flaw⟩

/-- Decodes bytes after the pending beginning of a character. -/
def decode (pending bytes : Bytes) : Except Malformed (Text × Bytes) :=
  decodeFrom 0 pending [] bytes

/-- What is wrong if the text ends with these bytes pending. -/
def unfinished? : Bytes → Option Malformed
  | [] => none
  | [a, b] =>
    if isSurrogate a b then some ⟨0, [a], .notContinued⟩ else some ⟨0, [a, b], .unfinished⟩
  | bytes => some ⟨0, bytes, .unfinished⟩

/-- Decodes a whole text. -/
def decodeAll (bytes : Bytes) : Except Malformed Text :=
  match decode [] bytes with
  | .error e => .error e
  | .ok (t, pending) =>
    match unfinished? pending with
    | none => .ok t
    | some flaw => .error { flaw with position := bytes.length - pending.length }

/-! ## §4. Pieces. -/

theorem mapError_error {α : Type} (f : Malformed → Malformed) (e : Malformed) :
    (Except.error e : Except Malformed α).mapError f = .error (f e) := rfl

theorem mapError_ok {α : Type} (f : Malformed → Malformed) (a : α) :
    (Except.ok a : Except Malformed α).mapError f = .ok a := rfl

/-- What is decoded already only stands in front. -/
theorem decodeFrom_found (position : Nat) (pending : Bytes) (found : Text) (bytes : Bytes) :
    decodeFrom position pending found bytes
      = (decodeFrom position pending [] bytes).map fun (t, rest) => (found.reverse ++ t, rest) := by
  induction bytes generalizing position pending found with
  | nil => simp [decodeFrom, Except.map]
  | cons b bytes ih =>
    unfold decodeFrom
    split
    · next c _ =>
      rw [ih _ _ (c :: found), ih _ _ [c]]
      cases decodeFrom (position + pending.length + 1) [] [] bytes <;> simp [Except.map]
    · exact ih _ _ _
    · rfl

/-- Where the decoder stands in the whole text changes only the positions
that are reported. -/
theorem decodeFrom_position (position : Nat) (pending : Bytes) (found : Text) (bytes : Bytes) :
    decodeFrom position pending found bytes
      = (decodeFrom 0 pending found bytes).mapError
          fun e => { e with position := position + e.position } := by
  induction bytes generalizing position pending found with
  | nil => rfl
  | cons b bytes ih =>
    unfold decodeFrom
    split
    · rw [ih (position + pending.length + 1), ih (0 + pending.length + 1)]
      cases decodeFrom 0 [] _ bytes <;> simp [mapError_error, mapError_ok, Nat.add_assoc]
    · exact ih _ _ _
    · simp [mapError_error]

/-- Decoding goes on after a piece with what that piece left pending. -/
theorem decode_append {pending first second rest : Bytes} {t : Text}
    (h : decode pending first = .ok (t, rest)) :
    (decode pending (first ++ second)).toOption
      = ((decode rest second).map fun (u, last) => (t ++ u, last)).toOption := by
  have key : ∀ (bytes pending : Bytes) (position : Nat) (found : Text),
      decodeFrom position pending found bytes = .ok (t, rest) →
      (decodeFrom position pending found (bytes ++ second)).toOption
        = ((decode rest second).map fun (u, last) => (t ++ u, last)).toOption := by
    intro bytes
    induction bytes with
    | nil =>
      intro pending position found h
      simp only [decodeFrom, Except.ok.injEq, Prod.mk.injEq] at h
      obtain ⟨rfl, rfl⟩ := h
      rw [List.nil_append, decodeFrom_found, decodeFrom_position, decode]
      cases decodeFrom 0 pending [] second <;> 
        simp [Except.map, mapError_error, mapError_ok, Except.toOption]
    | cons b bytes ih =>
      intro pending position found h
      rw [List.cons_append]
      unfold decodeFrom at h ⊢
      split at h
      · exact ih _ _ _ h
      · exact ih _ _ _ h
      · simp at h
  exact key first pending 0 [] h

end Utf8

end TapReport
