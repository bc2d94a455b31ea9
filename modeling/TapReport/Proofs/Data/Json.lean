/-
  TapReport.Proofs.Data.Json
  ──────────────────────────
  **JSON IS PLAIN TEXT.**

  Whatever the texts in a tree hold, the text of the tree is printable ASCII
  in lines.  So nothing in it can be taken for a control character.

  Main results:
    * `Json.isPlain_render` — a tree at any depth is plain.
    * `Json.escape_notMem_toText` — no tree is written with an escape character.
-/
import TapReport.Data.Json
import TapReport.Text.ControlSequence

namespace TapReport.Json

/-! ## §1. Plain texts. -/

/-- Printable ASCII in lines. -/
def IsPlain (t : Text) : Prop :=
  ∀ c ∈ t, c = '\n' ∨ isPrintable c = true

@[simp] theorem isPlain_nil : IsPlain [] := by
  intro c hc
  exact absurd hc List.not_mem_nil

@[simp] theorem isPlain_cons {c : Char} {t : Text} :
    IsPlain (c :: t) ↔ (c = '\n' ∨ isPrintable c = true) ∧ IsPlain t :=
  List.forall_mem_cons

@[simp] theorem isPlain_append {t u : Text} : IsPlain (t ++ u) ↔ IsPlain t ∧ IsPlain u :=
  List.forall_mem_append

theorem isPlain_of_isPrintable {t : Text} (h : ∀ c ∈ t, isPrintable c = true) : IsPlain t :=
  fun c hc => .inr (h c hc)

@[simp] theorem isPlain_newLine (depth : Nat) : IsPlain (newLine depth) := by
  refine isPlain_cons.mpr ⟨.inl rfl, isPlain_of_isPrintable fun c hc => ?_⟩
  obtain ⟨-, rfl⟩ := List.mem_replicate.mp hc
  decide

@[simp] theorem isPlain_quote (t : Text) : IsPlain (quote t) := by
  have hquoted : IsPlain (t.flatMap escapeChar) := by
    apply isPlain_of_isPrintable
    intro c hc
    obtain ⟨d, -, hc⟩ := List.mem_flatMap.mp hc
    exact escapeChar_isAscii d c hc
  simp [quote, hquoted, isPrintable]

@[simp] theorem isPlain_ofNat (n : Nat) : IsPlain (Text.ofNat n) := by
  apply isPlain_of_isPrintable
  intro c hc
  have hdigit : c.isDigit = true := Nat.isDigit_of_mem_toDigits (by decide) (by decide) hc
  have hrange : 48 ≤ c.val ∧ c.val ≤ 57 := by simpa [Char.isDigit] using hdigit
  have hlow : 48 ≤ c.toNat := hrange.1
  have hhigh : c.toNat ≤ 57 := hrange.2
  simp only [isPrintable, Bool.and_eq_true, decide_eq_true_eq]
  omega

@[simp] theorem isPlain_ofInt (n : Int) : IsPlain (Text.ofInt n) := by
  cases n with
  | ofNat n => exact isPlain_ofNat n
  | negSucc n => exact isPlain_cons.mpr ⟨.inr (by decide), isPlain_ofNat (n + 1)⟩

/-! ## §2. Trees. -/

mutual

/-- **The text of a tree is plain.** -/
theorem isPlain_render (depth : Nat) : (tree : Json) → IsPlain (render depth tree)
  | .null => by simp [render, isPrintable]
  | .bool true => by simp [render, isPrintable]
  | .bool false => by simp [render, isPrintable]
  | .int n => by simp [render]
  | .text t => by simp [render]
  | .array [] => by simp [isPrintable]
  | .array (item :: items) => by
    simp [render, isPrintable, isPlain_render (depth + 1) item,
      isPlain_renderItems (depth + 1) items]
  | .object [] => by simp [isPrintable]
  | .object ((key, tree) :: entries) => by
    simp [render, isPrintable, isPlain_render (depth + 1) tree,
      isPlain_renderEntries (depth + 1) entries]

/-- So are the further items of a list. -/
theorem isPlain_renderItems (depth : Nat) : (items : List Json) → IsPlain (renderItems depth items)
  | [] => by simp [renderItems]
  | item :: items => by
    simp [renderItems, isPrintable, isPlain_render depth item, isPlain_renderItems depth items]

/-- And the further entries of an object. -/
theorem isPlain_renderEntries (depth : Nat) :
    (entries : List (Text × Json)) → IsPlain (renderEntries depth entries)
  | [] => by simp [renderEntries]
  | (key, tree) :: entries => by
    simp [renderEntries, isPrintable, isPlain_render depth tree,
      isPlain_renderEntries depth entries]

end

/-- **JSON holds no escape character.** -/
theorem escape_notMem_toText (tree : Json) : Text.escape ∉ tree.toText := by
  intro hmem
  rcases isPlain_render 0 tree _ hmem with h | h
  · exact absurd h (by decide)
  · exact absurd h (by decide)

end TapReport.Json
