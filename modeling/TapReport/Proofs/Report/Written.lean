/-
  TapReport.Proofs.Report.Written
  ───────────────────────────────
  **A DOCUMENT IS KNOWN BY ITS JSON.**

  What a document does not say has no entry in its tree, so one entry can stand
  where another does in the tree of another document.  Their keys tell them
  apart: an optional entry is followed only by entries of other keys
  (`optionalEntry_append_inj`).  With this each part of a document is known by
  its tree, and a tree is known by its text.

  Main results:
    * `Title.toJson_inj`, `Test.toJson_inj`, `Document.toJson_inj` — the parts
      of a document, and the whole, are known by their trees.
    * `Document.toText_determines` — a document is known by its JSON text,
      which is printable ASCII in the lines of its layout.
-/
import TapReport.Proofs.Data.JsonText
import TapReport.Report.Output

namespace TapReport

/-! ## §1. Entries that may be absent. -/

section OptionalEntry

variable {α : Type} {key : String} {toJson : α → Json} {rest rest' : List (Text × Json)}

/-- No entry has a key. -/
def Lacks (key : String) (entries : List (Text × Json)) : Prop :=
  ∀ entry ∈ entries, entry.1 ≠ key.toList

theorem lacks_nil : Lacks key [] :=
  fun _ h => absurd h List.not_mem_nil

theorem lacks_optionalEntry (key other : String) (hne : other.toList ≠ key.toList)
    (a : Option α) : Lacks key (optionalEntry other toJson a) := by
  intro entry h
  cases a with
  | none => exact absurd h List.not_mem_nil
  | some x =>
    rw [List.mem_singleton.mp h]
    exact hne

theorem Lacks.append (h : Lacks key rest) (h' : Lacks key rest') : Lacks key (rest ++ rest') :=
  List.forall_mem_append.mpr ⟨h, h'⟩

/-- **An absent entry is not confused with one that is there**, if no entry that
follows has its key. -/
theorem optionalEntry_append_inj (hinj : ∀ x y, toJson x = toJson y → x = y) {a b : Option α}
    (hrest : Lacks key rest) (hrest' : Lacks key rest')
    (h : optionalEntry key toJson a ++ rest = optionalEntry key toJson b ++ rest') :
    a = b ∧ rest = rest' := by
  cases a with
  | none =>
    cases b with
    | none => exact ⟨rfl, h⟩
    | some y =>
      have hmem : (key.toList, toJson y) ∈ rest := by
        rw [show rest = _ from h]
        exact List.mem_cons_self
      exact absurd rfl (hrest _ hmem)
  | some x =>
    cases b with
    | none =>
      have hmem : (key.toList, toJson x) ∈ rest' := by
        rw [show rest' = _ from h.symm]
        exact List.mem_cons_self
      exact absurd rfl (hrest' _ hmem)
    | some y =>
      obtain ⟨hentry, hrest⟩ := List.cons.inj h
      rw [hinj x y (Prod.mk.inj hentry).2]
      exact ⟨rfl, hrest⟩

end OptionalEntry

/-! ## §2. The parts of a document. -/

theorem Plan.toJson_inj (p q : Plan) (h : p.toJson = q.toJson) : p = q := by
  obtain ⟨start, through⟩ := p
  obtain ⟨start', through'⟩ := q
  simpa [Plan.toJson] using h

/-- **A title is known by its tree**: status, number, description and directive,
absent or not. -/
theorem Title.toJson_inj (t u : Title) (h : t.toJson = u.toJson) : t = u := by
  obtain ⟨ok, number, description, directive⟩ := t
  obtain ⟨ok', number', description', directive'⟩ := u
  simp only [Title.toJson, Json.object.injEq, List.append_assoc, List.cons_append, List.nil_append,
    List.cons.injEq, Prod.mk.injEq, Json.bool.injEq, true_and] at h
  obtain ⟨rfl, hoptional⟩ := h
  have hlacks : ∀ d w : Option Text, Lacks "testNumber"
      (optionalEntry "description" .text d ++ optionalEntry "diagnostic" .text w) :=
    fun d w => (lacks_optionalEntry _ _ (by decide) d).append (lacks_optionalEntry _ _ (by decide) w)
  obtain ⟨rfl, hsaid⟩ := optionalEntry_append_inj (fun _ _ => Json.int.inj)
    (hlacks description directive) (hlacks description' directive') hoptional
  obtain ⟨rfl, hlast⟩ := optionalEntry_append_inj (fun _ _ => Json.text.inj)
    (lacks_optionalEntry "description" "diagnostic" (by decide) _)
    (lacks_optionalEntry "description" "diagnostic" (by decide) _) hsaid
  -- nothing follows the directive
  have hnothing := congrArg (· ++ []) hlast
  obtain ⟨rfl, -⟩ := optionalEntry_append_inj (fun _ _ => Json.text.inj) lacks_nil lacks_nil
    hnothing
  rfl

/-- Texts are known by their trees. -/
theorem map_text_inj {ts us : List Text} (h : ts.map Json.text = us.map Json.text) : ts = us :=
  (List.map_inj_right fun _ _ => Json.text.inj).mp h

theorem Test.toJson_inj (t u : Test) (h : t.toJson = u.toJson) : t = u := by
  obtain ⟨title, block⟩ := t
  obtain ⟨title', block'⟩ := u
  simp only [Test.toJson, Block.toJson, Json.object.injEq, List.cons.injEq, Prod.mk.injEq,
    Json.array.injEq, true_and, and_true] at h
  obtain ⟨htitle, hblock⟩ := h
  rw [Title.toJson_inj _ _ htitle, map_text_inj hblock]

/-! ## §3. Documents. -/

namespace Document

/-- **A document is known by its tree.** -/
theorem toJson_inj (d₁ d₂ : Document) (h : d₁.toJson = d₂.toJson) : d₁ = d₂ := by
  obtain ⟨version, plan, diagnostics, tests⟩ := d₁
  obtain ⟨version', plan', diagnostics', tests'⟩ := d₂
  simp only [toJson, Json.object.injEq, List.cons_append, List.nil_append, List.cons.injEq,
    Prod.mk.injEq, Json.int.injEq, true_and] at h
  obtain ⟨rfl, hafter⟩ := h
  have hlacks : ∀ said tested : Json,
      Lacks "testPlan" [("diagnostics".toList, said), ("tests".toList, tested)] := by
    simp [Lacks]
  obtain ⟨rfl, hlast⟩ := optionalEntry_append_inj Plan.toJson_inj (hlacks _ _) (hlacks _ _) hafter
  simp only [List.cons.injEq, Prod.mk.injEq, Json.array.injEq, true_and, and_true] at hlast
  obtain ⟨hdiagnostics, htests⟩ := hlast
  rw [map_text_inj hdiagnostics, (List.map_inj_right Test.toJson_inj).mp htests]

/-- **The JSON text determines the document.**  Two documents with one text are
one document, whatever they hold.  The text is printable ASCII and newlines, and
these are the newlines of its layout: none comes from a text inside. -/
theorem toText_determines (d₁ d₂ : Document) :
    (d₁.toJson.toText = d₂.toJson.toText ↔ d₁ = d₂)
      ∧ (∀ c ∈ d₁.toJson.toText, c = '\n' ∨ Json.isPrintable c = true)
      ∧ d₁.toJson.toText.count '\n' = d₁.toJson.breaks := by
  refine ⟨⟨fun h => ?_, fun h => by rw [h]⟩, ?_, ?_⟩
  · exact toJson_inj d₁ d₂ (Json.toText_inj.mp h)
  · exact Json.isPlain_render 0 d₁.toJson
  · exact Json.count_newline_toText d₁.toJson

end Document

end TapReport
