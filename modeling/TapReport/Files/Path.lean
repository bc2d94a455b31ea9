/-
  TapReport.Files.Path
  ────────────────────
  **PATHS: HOW FILES ARE NAMED.**

  A path is a text whose slashes separate names.  It begins at the root if
  it begins with a slash, and at the current folder otherwise; an empty part
  and `.` lead nowhere, `..` leads back.  A place is what a path comes to:
  the names on the way from the root.

  Main results:
    * `joinWith_parts` — a path is its parts with slashes between them.
    * `slash_notMem_of_mem_parts` — no part holds a slash.
    * `parts_of_notMem` — a text without slashes is its only part.
-/
import TapReport.Text.Basic

namespace TapReport

/-! ## §1. Places. -/

/-- Where a file or folder stands: the names on the way to it from the
root. -/
abbrev Place := List Text

/-- The path of a place. -/
def Place.toPath (place : Place) : Text :=
  '/' :: Text.joinWith ['/'] place

/-- The place itself and the folders around it, the innermost first. -/
def Place.upward : Place → List Place
  | [] => [[]]
  | name :: place => (Place.upward place).map (name :: ·) ++ [[]]

/-- The folders around a place are those it begins with. -/
theorem Place.mem_upward {place folder : Place} : folder ∈ place.upward ↔ folder <+: place := by
  induction place generalizing folder with
  | nil => simp [Place.upward]
  | cons name place ih =>
    cases folder with
    | nil => simp [Place.upward]
    | cons other folder =>
      simp only [Place.upward, List.mem_append, List.mem_map, List.mem_singleton,
        List.cons_prefix_cons]
      constructor
      · rintro (⟨inner, hm, he⟩ | h)
        · cases he
          exact ⟨rfl, ih.mp hm⟩
        · cases h
      · rintro ⟨rfl, h⟩
        exact .inl ⟨folder, ih.mpr h, rfl⟩

/-- A text that is one part of a path and leads to something in a folder. -/
structure IsPart (name : Text) : Prop where
  /-- It has a character. -/
  ne_nil : name ≠ []
  /-- It is not the current folder. -/
  ne_here : name ≠ ['.']
  /-- It is not the folder around. -/
  ne_back : name ≠ "..".toList
  /-- It is not cut by a slash. -/
  slash_notMem : '/' ∉ name
  /-- It holds no character of number zero. -/
  nul_notMem : Char.ofNat 0 ∉ name

instance (name : Text) : Decidable (IsPart name) :=
  decidable_of_iff (name ≠ [] ∧ name ≠ ['.'] ∧ name ≠ "..".toList ∧ '/' ∉ name
      ∧ Char.ofNat 0 ∉ name)
    ⟨fun h => ⟨h.1, h.2.1, h.2.2.1, h.2.2.2.1, h.2.2.2.2⟩,
      fun h => ⟨h.ne_nil, h.ne_here, h.ne_back, h.slash_notMem, h.nul_notMem⟩⟩

namespace Path

/-! ## §2. Parts. -/

/-- Puts one more character in front of a path that is already split. -/
def splitBefore (c : Char) (parts : List Text) : List Text :=
  if c = '/' then [] :: parts
  else match parts with
    | [] => [[c]]
    | part :: parts => (c :: part) :: parts

/-- The parts of a path between its slashes. -/
def parts (path : Text) : List Text :=
  path.foldr splitBefore [[]]

@[simp] theorem parts_nil : parts [] = [[]] := rfl

theorem parts_cons (c : Char) (path : Text) : parts (c :: path) = splitBefore c (parts path) := rfl

/-- Every path has a part, if only an empty one. -/
theorem parts_ne_nil (path : Text) : parts path ≠ [] := by
  cases path with
  | nil => simp
  | cons c path =>
    rw [parts_cons]
    unfold splitBefore
    split
    · simp
    · split <;> simp

/-- Its parts, joined by slashes, are the path again. -/
theorem joinWith_parts (path : Text) : Text.joinWith ['/'] (parts path) = path := by
  induction path with
  | nil => rfl
  | cons c path ih =>
    rw [parts_cons]
    unfold splitBefore
    cases hp : parts path with
    | nil => exact absurd hp (parts_ne_nil path)
    | cons part rest =>
      rw [hp] at ih
      by_cases hc : c = '/'
      · subst hc
        simp [Text.joinWith, ih]
      · cases rest with
        | nil => simp_all [Text.joinWith]
        | cons next rest => simp_all [Text.joinWith]

/-- No part holds a slash. -/
theorem slash_notMem_of_mem_parts {path : Text} : ∀ part ∈ parts path, '/' ∉ part := by
  induction path with
  | nil => simp
  | cons c path ih =>
    rw [parts_cons]
    unfold splitBefore
    by_cases hc : c = '/'
    · simpa [hc] using ih
    · cases hp : parts path with
      | nil => simp [hc, Ne.symm hc]
      | cons part rest =>
        rw [hp] at ih
        simp only [List.forall_mem_cons] at ih
        simpa [hc, Ne.symm hc] using ih

/-- A path without slashes is one part. -/
theorem parts_of_notMem {path : Text} (h : '/' ∉ path) : parts path = [path] := by
  induction path with
  | nil => rfl
  | cons c path ih =>
    simp only [List.mem_cons, not_or] at h
    simp [parts_cons, splitBefore, Ne.symm h.1, ih h.2]

/-- The parts of a path that lead somewhere. -/
def names (path : Text) : List Text :=
  (parts path).filter fun part => part != [] && part != ['.']

/-- Whether a path begins at the root. -/
def isAbsolute (path : Text) : Bool :=
  path.head? = some '/'

/-! ## §3. Tidy paths and places. -/

/-- The slashes that a tidy path begins with: two stay two, any other number
becomes one. -/
def rootText (path : Text) : Text :=
  match (path.takeWhile (· = '/')).length with
  | 0 => []
  | 2 => "//".toList
  | _ => "/".toList

/-- A path without parts that lead nowhere.  A path of no parts names the
current folder. -/
def tidy (path : Text) : Text :=
  match rootText path ++ Text.joinWith ['/'] (names path) with
  | [] => ['.']
  | t => t

/-- One name further, or one name back for `..`. -/
def step (place : Place) (name : Text) : Place :=
  if name = "..".toList then place.dropLast else place ++ [name]

/-- The place that a path names when `here` is the current folder, whether
or not anything stands there. -/
def resolve (here : Place) (path : Text) : Place :=
  (names path).foldl step (if isAbsolute path then [] else here)

end Path

end TapReport
