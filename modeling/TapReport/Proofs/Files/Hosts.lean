/-
  TapReport.Proofs.Files.Hosts
  ────────────────────────────
  **WHAT A HOST HOLDS AT A PLACE, AND WHAT IT REFUSES.**

  A place is asked about by its path, first whether anything is there, then
  for its bytes.  Three things can come of that: bytes that are read; a fault of
  the first question that does not mean that nothing is there; or neither, and
  the place counts as one without a file.

      Host.Holds     bytes at a place that are there and may be read
      Host.Refuses   a place that cannot be looked at, and why

  Main results:
    * `Host.present?_of_holds`, `Host.present?_of_refuses`,
      `Host.read_of_nothing` — what the two questions come to.
    * `Host.holds_without_iff`, `Host.refuses_without_iff`,
      `Host.resolve_without` — a host without a file differs at its path only.
-/
import TapReport.Files.Host

namespace TapReport

namespace Host

/-! ## §1. Places with and without a file. -/

/-- Bytes at a place: something is there, and it may be read. -/
structure Holds (host : Host) (place : Place) (bytes : Bytes) : Prop where
  /-- Something is there. -/
  look_eq : ∃ found, host.look place.toPath = .ok found
  /-- These bytes are read. -/
  read_eq : host.read place.toPath = .ok bytes

/-- A place that cannot be looked at, for a reason that does not mean that
nothing is there. -/
structure Refuses (host : Host) (place : Place) (e : FileFault) : Prop where
  /-- It cannot be looked at. -/
  look_eq : host.look place.toPath = .error e
  /-- The reason is a fault. -/
  isAbsence_eq : e.isAbsence = false

variable {host : Host} {place other : Place} {bytes : Bytes} {e : FileFault}

/-- At most one content is held at a place. -/
theorem Holds.unique {content : Bytes} (h : host.Holds place bytes)
    (hcontent : host.Holds place content) : bytes = content :=
  Except.ok.inj (h.read_eq.symm.trans hcontent.read_eq)

theorem Holds.not_refuses (h : host.Holds place bytes) : ¬ host.Refuses place e := by
  intro hrefuses
  obtain ⟨found, hfound⟩ := h.look_eq
  exact absurd (hfound.symm.trans hrefuses.look_eq) (by simp)

/-- What is held depends on the path alone. -/
theorem Holds.of_toPath_eq (h : host.Holds place bytes) (hpath : other.toPath = place.toPath) :
    host.Holds other bytes :=
  ⟨hpath ▸ h.look_eq, hpath ▸ h.read_eq⟩

theorem present?_of_holds (h : host.Holds place bytes) :
    host.present? place.toPath = .ok true := by
  obtain ⟨found, hfound⟩ := h.look_eq
  unfold present?
  rw [hfound]

theorem present?_of_refuses (h : host.Refuses place e) :
    host.present? place.toPath = .error e := by
  unfold present?
  rw [h.look_eq]
  exact if_neg (by simp [h.isAbsence_eq])

/-- **Where nothing is held and nothing refused**, the answer is that nothing is
there, or what is there cannot be read. -/
theorem read_of_nothing (hno : ∀ bytes, ¬ host.Holds place bytes)
    (hallowed : ∀ e, ¬ host.Refuses place e) :
    host.present? place.toPath = .ok false
      ∨ host.present? place.toPath = .ok true ∧ ∃ e, host.read place.toPath = .error e := by
  unfold present?
  cases hlook : host.look place.toPath with
  | error e =>
    by_cases habsence : e.isAbsence = true
    · exact .inl (if_pos habsence)
    · exact absurd ⟨hlook, by simpa using habsence⟩ (hallowed e)
  | ok found =>
    cases hread : host.read place.toPath with
    | error e => exact .inr ⟨rfl, e, rfl⟩
    | ok bytes => exact absurd ⟨⟨found, hlook⟩, hread⟩ (hno bytes)

/-! ## §2. A host without a file. -/

variable {path : Text}

theorem look_without (host : Host) (path other : Text) : (host.without path).look other
    = if other = path then .error (nothingAt other) else host.look other := rfl

theorem read_without (host : Host) (path other : Text) : (host.without path).read other
    = if other = path then .error (nothingAt other) else host.read other := rfl

theorem isAbsence_nothingAt (path : Text) : (nothingAt path).isAbsence = true := by
  unfold nothingAt
  split <;> rfl

/-- **Nothing is held at the path**, and elsewhere what was. -/
theorem holds_without_iff :
    (host.without path).Holds place bytes ↔ place.toPath ≠ path ∧ host.Holds place bytes := by
  by_cases hplace : place.toPath = path
  · refine iff_of_false ?_ (fun hboth => hboth.1 hplace)
    intro h
    have hread := h.read_eq
    rw [read_without, if_pos hplace] at hread
    exact absurd hread (by simp)
  · constructor
    · intro h
      have hlook := h.look_eq
      have hread := h.read_eq
      rw [look_without, if_neg hplace] at hlook
      rw [read_without, if_neg hplace] at hread
      exact ⟨hplace, hlook, hread⟩
    · intro h
      constructor
      · rw [look_without, if_neg hplace]
        exact h.2.look_eq
      · rw [read_without, if_neg hplace]
        exact h.2.read_eq

/-- **Nor is anything refused there.** -/
theorem refuses_without_iff :
    (host.without path).Refuses place e ↔ place.toPath ≠ path ∧ host.Refuses place e := by
  by_cases hplace : place.toPath = path
  · refine iff_of_false ?_ (fun hboth => hboth.1 hplace)
    intro h
    have hlook := h.look_eq
    rw [look_without, if_pos hplace] at hlook
    have habsence := h.isAbsence_eq
    rw [← Except.error.inj hlook, isAbsence_nothingAt] at habsence
    exact absurd habsence (by simp)
  · constructor
    · intro h
      have hlook := h.look_eq
      rw [look_without, if_neg hplace] at hlook
      exact ⟨hplace, hlook, h.isAbsence_eq⟩
    · intro h
      refine ⟨?_, h.2.isAbsence_eq⟩
      rw [look_without, if_neg hplace]
      exact h.2.look_eq

/-- **Paths are resolved as before**, since no circle of links was there. -/
theorem resolve_without (h : host.Holds place bytes) (path : Text) :
    (host.without place.toPath).resolve path = host.resolve path := by
  have hreal : (host.without place.toPath).realPath path = host.realPath path := rfl
  unfold resolve
  rw [hreal]
  cases host.realPath path with
  | error e => rfl
  | ok found =>
    dsimp only
    rw [look_without]
    by_cases hfound : found.toPath = place.toPath
    · obtain ⟨what, hwhat⟩ := h.look_eq
      have hmissing : nothingAt place.toPath ≠ .linkLoop := by
        unfold nothingAt
        split <;> simp
      rw [if_pos hfound, hfound, hwhat]
      split
      · next heq => exact absurd (Except.error.inj heq) hmissing
      · rfl
    · rw [if_neg hfound]

end Host

end TapReport
