/-
  TapReport.Stream.Encoding
  ─────────────────────────
  **TEXT ENCODINGS OF A STREAM.**

  A stream is text in UTF-8, Latin-1 or ASCII.  Latin-1 has a character for
  every byte; ASCII has one for the lower half.  Only UTF-8 has characters
  of several bytes, so only its decoder can hold bytes back.

  Main definitions:
    * `Encoding.decode` — the text of a piece, and what it leaves pending.
    * `Encoding.close` — whether a stream may end there.
    * `Undecodable.message` — how bytes that are no text are reported.
-/
import TapReport.Text.Numeral
import TapReport.Text.Utf8

namespace TapReport

/-- How the bytes of a stream make a text. -/
inductive Encoding where
  /-- UTF-8. -/
  | utf8
  /-- ISO 8859-1: a byte is the character of that number. -/
  | latin1
  /-- ASCII: bytes below 128. -/
  | ascii
  deriving DecidableEq, Repr

/-- Bytes that are no text in an encoding. -/
structure Undecodable where
  /-- The encoding. -/
  encoding : Encoding
  /-- Where the bytes to blame begin. -/
  position : Nat
  /-- The bytes to blame. -/
  bytes : Bytes
  /-- What is wrong with them, in words. -/
  reason : Text
  deriving DecidableEq, Repr

namespace Encoding

/-- The name of an encoding. -/
def name : Encoding → Text
  | .utf8 => "utf-8".toList
  | .latin1 => "latin-1".toList
  | .ascii => "ascii".toList

/-- The encoding that a name stands for.  Letter case does not matter, and
neither do the signs between the parts of a name. -/
def ofName? (name : Text) : Option Encoding :=
  let plain := name.filterMap fun c => if c = '-' || c = '_' || c = ' ' then none else some c.toLower
  if plain ∈ ["utf8".toList, "u8".toList] then some .utf8
  else if plain ∈ ["latin1".toList, "latin".toList, "l1".toList, "iso88591".toList] then some .latin1
  else if plain ∈ ["ascii".toList, "usascii".toList, "646".toList] then some .ascii
  else none

/-- What is said of malformed UTF-8. -/
def flawText : Utf8.Flaw → Text
  | .start => "invalid start byte".toList
  | .notContinued => "invalid continuation byte".toList
  | .unfinished => "unexpected end of data".toList

/-- Malformed UTF-8 as undecodable bytes. -/
def ofMalformed (e : Utf8.Malformed) : Undecodable :=
  ⟨.utf8, e.position, e.bytes, flawText e.flaw⟩

/-- The first byte that is not ASCII, with its index. -/
def firstAbove (position : Nat) : Bytes → Option (Nat × UInt8)
  | [] => none
  | b :: rest => if b < 0x80 then firstAbove (position + 1) rest else some (position, b)

/-- The text of a piece that follows `pending` bytes, and the bytes that
stay pending. -/
def decode (encoding : Encoding) (pending piece : Bytes) : Except Undecodable (Text × Bytes) :=
  match encoding with
  | .utf8 => (Utf8.decode pending piece).mapError ofMalformed
  | .latin1 => .ok (piece.map fun b => Char.ofNat b.toNat, [])
  | .ascii =>
    match firstAbove 0 piece with
    | none => .ok (piece.map fun b => Char.ofNat b.toNat, [])
    | some (position, b) => .error ⟨.ascii, position, [b], "ordinal not in range(128)".toList⟩

/-- Ends a stream with these bytes pending. -/
def close (pending : Bytes) : Except Undecodable Unit :=
  match Utf8.unfinished? pending with
  | none => .ok ()
  | some e => .error (ofMalformed e)

end Encoding

/-- What is reported for bytes that are no text. -/
def Undecodable.message (e : Undecodable) : Text :=
  let place := match e.bytes with
    | [b] => "byte 0x".toList ++ Text.ofHex 2 b.toNat ++ " in position ".toList ++ Text.ofNat e.position
    | bytes => "bytes in position ".toList ++ Text.ofNat e.position ++ ['-']
        ++ Text.ofNat (e.position + bytes.length - 1)
  ['\''] ++ e.encoding.name ++ "' codec can't decode ".toList ++ place ++ ": ".toList ++ e.reason

end TapReport
