/-
  TapReport.Proofs.Settings.Candidates
  ────────────────────────────────────
  **WHAT A CANDIDATE FOR SETTINGS CONTRIBUTES TO THE SEARCH.**

  A candidate is a file and a path of keys in it.  Either its file holds a
  document in which the keys lead to a value, and the search is over; or the
  file cannot be looked at, or not be used at all, and the search ends with the
  reason; or the search goes on.  Each of these is said here of what the host
  holds and refuses, without the readers of the search.

      IsDocument, IsRejected   bytes that are TOML, and texts that are not
      IsUnusable               bytes that end a search
      Value.Leads              keys that lead to a value in nested tables
      Candidate.Present        a candidate that decides
      Candidate.PassedOver     a candidate that the search goes past
      Candidate.Fatal          a candidate that ends it, and how

  Main results:
    * `Candidate.candidate_cases`, `Candidate.value?_of_present`,
      `Candidate.value?_of_passedOver`, `Candidate.value?_of_fatal` — reading
      a candidate.
    * `Candidate.firstOf_cases`, `Candidate.firstOf_eq_error_iff` — how a
      search ends.
    * `Candidate.firstOf_congr` — what does not matter to it.
-/
import Mathlib.Data.List.Infix
import TapReport.Proofs.Files.Hosts
import TapReport.Proofs.Text.Utf8
import TapReport.Settings.Search

namespace TapReport

/-! ## §1. Bytes and documents. -/

/-- Bytes of a text that is a TOML document, with the room that there is for
the text. -/
def IsDocument (room : Text → Nat) (bytes : Bytes) (table : Table) : Prop :=
  ∃ t, Utf8.encode t = bytes ∧ Toml.parse (room t) t = .ok table

/-- Bytes of a text that is found to be no TOML document. -/
def IsRejected (room : Text → Nat) (bytes : Bytes) : Prop :=
  ∃ t, Utf8.encode t = bytes ∧ Toml.parse (room t) t = .error .malformed

/-- Bytes that end a search, and how: they are no text, or a text with an
integer of too many digits, or one whose values are nested too deep. -/
inductive IsUnusable (room : Text → Nat) (bytes : Bytes) : LoadFault → Prop
  /-- They are no text. -/
  | undecodable {e : Utf8.Malformed} (h : Utf8.decodeAll bytes = .error e) :
    IsUnusable room bytes (.undecodable (Encoding.ofMalformed e))
  /-- They are a text with an integer that is too long. -/
  | numeralTooLong {t : Text} {digits : Nat} (ht : Utf8.encode t = bytes)
    (h : Toml.parse (room t) t = .error (.numeralTooLong digits)) :
    IsUnusable room bytes (.numeralTooLong digits)
  /-- They are a text that takes more room than there is. -/
  | tooDeep {t : Text} (ht : Utf8.encode t = bytes) (h : Toml.parse (room t) t = .error .tooDeep) :
    IsUnusable room bytes .tooDeep

section Documents

variable {room : Text → Nat} {bytes : Bytes} {table : Table} {t : Text} {e : LoadFault}

theorem readDocument?_of_text (ht : Utf8.encode t = bytes) :
    readDocument? room bytes = match Toml.parse (room t) t with
      | .ok table => .ok (some table)
      | .error .malformed => .ok none
      | .error (.numeralTooLong digits) => .error (.numeralTooLong digits)
      | .error .tooDeep => .error .tooDeep := by
  have hdecode := Utf8.decodeAll_eq_ok_iff.mpr ht
  cases hparse : Toml.parse (room t) t with
  | ok table => simp only [readDocument?, hdecode, hparse]
  | error flaw => cases flaw <;> simp only [readDocument?, hdecode, hparse]

theorem readDocument?_of_document (h : IsDocument room bytes table) :
    readDocument? room bytes = .ok (some table) := by
  obtain ⟨t, ht, hparse⟩ := h
  rw [readDocument?_of_text ht, hparse]

theorem IsDocument.unique {other : Table} (h : IsDocument room bytes table)
    (hother : IsDocument room bytes other) : table = other := by
  have hread := (readDocument?_of_document h).symm.trans (readDocument?_of_document hother)
  simpa using hread

theorem readDocument?_of_rejected (h : IsRejected room bytes) :
    readDocument? room bytes = .ok none := by
  obtain ⟨t, ht, hparse⟩ := h
  rw [readDocument?_of_text ht, hparse]

theorem readDocument?_of_unusable (h : IsUnusable room bytes e) :
    readDocument? room bytes = .error e := by
  cases h with
  | undecodable h =>
    unfold readDocument?
    rw [h]
  | numeralTooLong ht h => rw [readDocument?_of_text ht, h]
  | tooDeep ht h => rw [readDocument?_of_text ht, h]

/-- Bytes that are rejected or a document are not unusable. -/
theorem not_isUnusable (h : IsRejected room bytes ∨ ∃ table, IsDocument room bytes table) :
    ¬ IsUnusable room bytes e := by
  intro hunusable
  have hread := readDocument?_of_unusable hunusable
  rcases h with hrejected | ⟨table, hdocument⟩
  · rw [readDocument?_of_rejected hrejected] at hread
    exact absurd hread (by simp)
  · rw [readDocument?_of_document hdocument] at hread
    exact absurd hread (by simp)

/-- Bytes are a document, or rejected, or unusable. -/
theorem document_cases (room : Text → Nat) (bytes : Bytes) :
    (∃ table, IsDocument room bytes table) ∨ IsRejected room bytes
      ∨ ∃ e, IsUnusable room bytes e := by
  cases hdecode : Utf8.decodeAll bytes with
  | error e => exact .inr (.inr ⟨_, .undecodable hdecode⟩)
  | ok t =>
    have ht := Utf8.decodeAll_eq_ok_iff.mp hdecode
    cases hparse : Toml.parse (room t) t with
    | ok table => exact .inl ⟨table, t, ht, hparse⟩
    | error flaw =>
      cases flaw with
      | malformed => exact .inr (.inl ⟨t, ht, hparse⟩)
      | numeralTooLong digits => exact .inr (.inr ⟨_, .numeralTooLong ht hparse⟩)
      | tooDeep => exact .inr (.inr ⟨_, .tooDeep ht hparse⟩)

end Documents

/-! ## §2. Keys. -/

/-- Keys that lead from a value to one in it, through a table for each key. -/
inductive Value.Leads : Value → List Text → Value → Prop
  /-- No keys lead to the value itself. -/
  | done (v : Value) : Leads v [] v
  /-- A key leads into a table. -/
  | into {entries : Table} {key : Text} {inner v : Value} {path : List Text}
    (hkey : Table.lookup? key entries = some inner) (hpath : Leads inner path v) :
    Leads (.table entries) (key :: path) v

theorem Value.at?_eq_some_iff {keys : List Text} {outer v : Value} :
    outer.at? keys = some v ↔ outer.Leads keys v := by
  induction keys generalizing outer with
  | nil =>
    constructor
    · intro h
      obtain rfl : outer = v := Option.some.inj h
      exact .done outer
    · intro h
      cases h
      rfl
  | cons key path ih =>
    constructor
    · intro h
      cases outer with
      | table entries =>
        obtain ⟨inner, hkey, hpath⟩ := Option.bind_eq_some_iff.mp h
        exact .into hkey (ih.mp hpath)
      | null | bool | int | float | text | moment | array => exact absurd h (by simp [Value.at?])
    · intro h
      cases h with
      | into hkey hpath =>
        rw [Value.at?, hkey]
        exact ih.mpr hpath

/-! ## §3. Candidates. -/

namespace Candidate

/-- A candidate that decides: its file holds a document in which its keys
lead to a value. -/
def Present (host : Host) (c : Candidate) (v : Value) : Prop :=
  ∃ bytes table, host.Holds c.file bytes ∧ IsDocument host.room bytes table
    ∧ (Value.table table).Leads c.keys v

/-- A candidate that is passed over: its file can be looked at, and if it holds
bytes, they are rejected or a document in which its keys lead nowhere. -/
structure PassedOver (host : Host) (c : Candidate) : Prop where
  /-- Its file can be looked at. -/
  allowed : ∀ e, ¬ host.Refuses c.file e
  /-- Its file holds no value for it. -/
  nothing : ∀ bytes, host.Holds c.file bytes → IsRejected host.room bytes
    ∨ ∃ table, IsDocument host.room bytes table ∧ ∀ v, ¬ (Value.table table).Leads c.keys v

/-- A candidate that ends the search, and how. -/
inductive Fatal (host : Host) (c : Candidate) : LoadFault → Prop
  /-- Its file cannot be looked at. -/
  | refused {e : FileFault} (h : host.Refuses c.file e) :
    Fatal host c (.inaccessible c.file.toPath e)
  /-- Its file holds bytes that cannot be used. -/
  | unusable {bytes : Bytes} {e : LoadFault} (hholds : host.Holds c.file bytes)
    (h : IsUnusable host.room bytes e) : Fatal host c e

variable {host host' : Host} {c : Candidate} {v : Value} {e : LoadFault}

theorem value?_of_refuses {e : FileFault} (h : host.Refuses c.file e) :
    c.value? host = .error (.inaccessible c.file.toPath e) := by
  unfold value?
  rw [Host.present?_of_refuses h]

/-- A file that is held is read. -/
theorem value?_of_holds {bytes : Bytes} (h : host.Holds c.file bytes) :
    c.value? host = (readDocument? host.room bytes).map fun document =>
      document.bind fun table => (Value.table table).at? c.keys := by
  unfold value?
  rw [Host.present?_of_holds h, h.read_eq]

/-- Where no file is held, there is nothing to read. -/
theorem value?_of_nothing (hno : ∀ bytes, ¬ host.Holds c.file bytes)
    (hallowed : ∀ e, ¬ host.Refuses c.file e) : c.value? host = .ok none := by
  unfold value?
  rcases Host.read_of_nothing hno hallowed with habsent | ⟨hpresent, e, hread⟩
  · rw [habsent]
  · rw [hpresent, hread]

theorem value?_of_present (h : c.Present host v) : c.value? host = .ok (some v) := by
  obtain ⟨bytes, table, hholds, hdocument, hleads⟩ := h
  rw [value?_of_holds hholds, readDocument?_of_document hdocument]
  exact congrArg Except.ok (Value.at?_eq_some_iff.mpr hleads)

theorem value?_of_passedOver (h : c.PassedOver host) : c.value? host = .ok none := by
  by_cases hfile : ∃ bytes, host.Holds c.file bytes
  · obtain ⟨bytes, hholds⟩ := hfile
    rw [value?_of_holds hholds]
    rcases h.nothing bytes hholds with hrejected | ⟨table, hdocument, hno⟩
    · rw [readDocument?_of_rejected hrejected]
      rfl
    · rw [readDocument?_of_document hdocument]
      apply congrArg Except.ok
      show (Value.table table).at? c.keys = none
      rw [Option.eq_none_iff_forall_ne_some]
      exact fun v hv => hno v (Value.at?_eq_some_iff.mp hv)
  · exact value?_of_nothing (fun bytes hholds => hfile ⟨bytes, hholds⟩) h.allowed

theorem value?_of_fatal (h : c.Fatal host e) : c.value? host = .error e := by
  cases h with
  | refused h => exact value?_of_refuses h
  | unusable hholds h =>
    rw [value?_of_holds hholds, readDocument?_of_unusable h]
    rfl

/-- A rejected file is passed over. -/
theorem PassedOver.of_rejected {bytes : Bytes} (hholds : host.Holds c.file bytes)
    (h : IsRejected host.room bytes) : c.PassedOver host where
  allowed _ := hholds.not_refuses
  nothing := by
    intro other hother
    rw [← hholds.unique hother]
    exact .inl h

/-- **A candidate decides, is passed over, or ends the search.** -/
theorem candidate_cases (host : Host) (c : Candidate) :
    (∃ v, c.Present host v) ∨ c.PassedOver host ∨ ∃ e, c.Fatal host e := by
  by_cases hrefused : ∃ e, host.Refuses c.file e
  · obtain ⟨e, hrefuses⟩ := hrefused
    exact .inr (.inr ⟨_, .refused hrefuses⟩)
  have hallowed : ∀ e, ¬ host.Refuses c.file e := fun e he => hrefused ⟨e, he⟩
  by_cases hfile : ∃ bytes, host.Holds c.file bytes
  · obtain ⟨bytes, hholds⟩ := hfile
    rcases document_cases host.room bytes with ⟨table, hdocument⟩ | hrejected | ⟨e, hunusable⟩
    · by_cases hleads : ∃ v, (Value.table table).Leads c.keys v
      · obtain ⟨v, hleads⟩ := hleads
        exact .inl ⟨v, bytes, table, hholds, hdocument, hleads⟩
      · refine .inr (.inl ⟨hallowed, fun other hother => ?_⟩)
        rw [← hholds.unique hother]
        exact .inr ⟨table, hdocument, fun v hv => hleads ⟨v, hv⟩⟩
    · exact .inr (.inl (.of_rejected hholds hrejected))
    · exact .inr (.inr ⟨e, .unusable hholds hunusable⟩)
  · exact .inr (.inl ⟨hallowed, fun bytes hholds => absurd ⟨bytes, hholds⟩ hfile⟩)

/-- A search does not go past a candidate that decides or ends it. -/
theorem value?_ne_none (h : (∃ v, c.Present host v) ∨ ∃ e, c.Fatal host e) :
    c.value? host ≠ .ok none := by
  rcases h with ⟨v, hpresent⟩ | ⟨e, hfatal⟩
  · simp [value?_of_present hpresent]
  · simp [value?_of_fatal hfatal]

/-! ## §4. How a search ends. -/

theorem firstOf_of_passedOver {before : List Candidate} (h : ∀ b ∈ before, b.PassedOver host)
    (rest : List Candidate) : firstOf host (before ++ rest) = firstOf host rest :=
  firstOf_of_absent (fun b hb => value?_of_passedOver (h b hb)) rest

theorem firstOf_of_fatal (h : c.Fatal host e) (rest : List Candidate) :
    firstOf host (c :: rest) = .error e := by
  rw [firstOf, value?_of_fatal h]

/-- **A search ends** at the first candidate that is not passed over, or with
the standard settings if all are. -/
theorem firstOf_cases (host : Host) (cs : List Candidate) :
    (∃ before c after, cs = before ++ c :: after ∧ (∀ b ∈ before, b.PassedOver host)
      ∧ ((∃ v, c.Present host v
          ∧ firstOf host cs = (RawSettings.ofRaw c.keys c.file.toPath v).mapError .settings)
        ∨ ∃ e, c.Fatal host e ∧ firstOf host cs = .error e))
    ∨ (∀ c ∈ cs, c.PassedOver host) ∧ firstOf host cs = .ok .standard := by
  induction cs with
  | nil => exact .inr ⟨fun c hc => absurd hc List.not_mem_nil, rfl⟩
  | cons c cs ih =>
    rcases candidate_cases host c with ⟨v, hpresent⟩ | hpassed | ⟨e, hfatal⟩
    · refine .inl ⟨[], c, cs, rfl, fun b hb => absurd hb List.not_mem_nil, .inl ⟨v, hpresent, ?_⟩⟩
      exact firstOf_of_present (value?_of_present hpresent) cs
    · -- the search goes on
      have hon : firstOf host (c :: cs) = firstOf host cs := by
        rw [firstOf, value?_of_passedOver hpassed]
      rw [hon]
      rcases ih with ⟨before, d, after, rfl, hbefore, hend⟩ | ⟨hall, hstandard⟩
      · exact .inl ⟨c :: before, d, after, rfl, List.forall_mem_cons.mpr ⟨hpassed, hbefore⟩, hend⟩
      · exact .inr ⟨List.forall_mem_cons.mpr ⟨hpassed, hall⟩, hstandard⟩
    · refine .inl ⟨[], c, cs, rfl, fun b hb => absurd hb List.not_mem_nil, .inr ⟨e, hfatal, ?_⟩⟩
      exact firstOf_of_fatal hfatal cs

/-- **A search ends with a fault** that is not about settings exactly if a
candidate ends it with that fault after others that are passed over. -/
theorem firstOf_eq_error_iff {cs : List Candidate} (he : ∀ s, e ≠ .settings s) :
    firstOf host cs = .error e ↔ ∃ before c after, cs = before ++ c :: after
      ∧ (∀ b ∈ before, b.PassedOver host) ∧ c.Fatal host e := by
  constructor
  · intro hload
    rcases firstOf_cases host cs with
      ⟨before, c, after, hsplit, hbefore, ⟨v, -, hend⟩ | ⟨e', hfatal, hend⟩⟩ | ⟨-, hend⟩
    · rw [hend] at hload
      cases hraw : RawSettings.ofRaw c.keys c.file.toPath v with
      | ok s =>
        rw [hraw] at hload
        exact nomatch hload
      | error s =>
        rw [hraw] at hload
        exact absurd (Except.error.inj hload).symm (he s)
    · obtain rfl : e' = e := Except.error.inj (hend.symm.trans hload)
      exact ⟨before, c, after, hsplit, hbefore, hfatal⟩
    · exact absurd (hend.symm.trans hload) (by simp)
  · intro hfound
    obtain ⟨before, c, after, rfl, hbefore, hfatal⟩ := hfound
    rw [firstOf_of_passedOver hbefore]
    exact firstOf_of_fatal hfatal after

/-! ## §5. What does not matter. -/

/-- A candidate that contributes the same with two hosts. -/
structure Unchanged (host host' : Host) (c : Candidate) : Prop where
  /-- It decides with both or with neither, by the same value. -/
  present : ∀ v, c.Present host v ↔ c.Present host' v
  /-- It ends the search with both or with neither, in the same way. -/
  fatal : ∀ e, c.Fatal host e ↔ c.Fatal host' e

theorem Unchanged.value?_eq (h : c.Unchanged host host') : c.value? host = c.value? host' := by
  rcases candidate_cases host' c with ⟨v, hpresent⟩ | hpassed | ⟨e, hfatal⟩
  · rw [value?_of_present hpresent, value?_of_present ((h.present v).mpr hpresent)]
  · rcases candidate_cases host c with ⟨v, hother⟩ | hother | ⟨e, hother⟩
    · rw [value?_of_present hother, value?_of_present ((h.present v).mp hother)]
    · rw [value?_of_passedOver hother, value?_of_passedOver hpassed]
    · rw [value?_of_fatal hother, value?_of_fatal ((h.fatal e).mp hother)]
  · rw [value?_of_fatal hfatal, value?_of_fatal ((h.fatal e).mpr hfatal)]

/-- Only the candidates up to the one that ends a search matter. -/
theorem firstOf_congr {cs after : List Candidate}
    (hsame : ∀ c ∈ cs, c.value? host = c.value? host')
    (hend : after = [] ∨ ∃ c ∈ cs, c.value? host ≠ .ok none) :
    firstOf host' (cs ++ after) = firstOf host (cs ++ after) := by
  induction cs with
  | nil =>
    rcases hend with rfl | ⟨c, hc, -⟩
    · rfl
    · exact absurd hc List.not_mem_nil
  | cons c cs ih =>
    obtain ⟨hc, hcs⟩ := List.forall_mem_cons.mp hsame
    rw [List.cons_append, firstOf, firstOf, ← hc]
    cases hvalue : c.value? host with
    | error e => rfl
    | ok found =>
      cases found with
      | some v => rfl
      | none =>
        apply ih hcs
        apply hend.imp_right
        intro hlater
        obtain ⟨d, hd, hne⟩ := hlater
        rcases List.mem_cons.mp hd with rfl | hd
        · exact absurd hvalue hne
        · exact ⟨d, hd, hne⟩

/-- In particular what follows a candidate that ends it does not. -/
theorem firstOf_congr_of_ends {before after : List Candidate}
    (hsame : ∀ b ∈ before ++ [c], b.value? host = b.value? host')
    (hend : c.value? host ≠ .ok none) :
    firstOf host' (before ++ c :: after) = firstOf host (before ++ c :: after) := by
  have hsplit : before ++ c :: after = (before ++ [c]) ++ after := by simp
  rw [hsplit]
  exact firstOf_congr hsame (.inr ⟨c, List.mem_append_right before List.mem_cons_self, hend⟩)

/-- If all contribute the same, the result is the same. -/
theorem firstOf_congr_all {cs : List Candidate}
    (hsame : ∀ c ∈ cs, c.value? host = c.value? host') : firstOf host' cs = firstOf host cs := by
  have hnothing : firstOf host' (cs ++ []) = firstOf host (cs ++ []) :=
    firstOf_congr hsame (.inl rfl)
  rwa [List.append_nil] at hnothing

end Candidate

/-- The settings for a path come from the folder that it is resolved to. -/
theorem RawSettings.load_eq_firstOf {host : Host} {path : Text} {folder : Place}
    (h : host.resolve path = .ok folder) :
    load host path = Candidate.firstOf host (Candidate.around folder) := by
  unfold load
  rw [h]
  rfl

end TapReport
