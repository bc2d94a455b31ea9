/-
  TapReport.Proofs.Settings.Unordered
  ───────────────────────────────────
  **WHEN THE ORDER OF A TABLE MATTERS.**

  The entries of a table have no order of their own, and each of them has a
  name that no other has.  Two entries can all the same name one setting, with
  dashes and with underscores; the settings are then taken over one after
  another and the last entry stays, without a fault:
  `ofRaw_depends_on_order`.

  This is the only way in which the order shows.  A table with an unknown name
  is refused in every order, with the same fault, and a table whose spellings of
  one name agree gives the same settings in every order.

  Main results:
    * `RawSettings.ofRaw_of_unknown` — an unknown name spoils the table.
    * `RawSettings.ofRaw_of_known` — of each name the last entry stays.
    * `RawSettings.ofRaw_perm_iff` — the tables that are read alike in every
      order.
-/
import TapReport.Proofs.Settings.Overrides

namespace TapReport

namespace RawSettings

variable {path : List Text} {file : Text} {entries : Table}

/-! ## §1. What a table comes to. -/

/-- A table with underscores for dashes in all names. -/
def respelled (entries : Table) : Table :=
  entries.map fun (name, v) => (withUnderscores name, v)

theorem ofRaw_table (path : List Text) (file : Text) (entries : Table) :
    ofRaw path file (.table entries)
      = match standard.takeOver? (respelled entries) with
        | some s => .ok s
        | none => .error (.badTable path file) := rfl

/-- **An unknown name spoils the table**, wherever it stands. -/
theorem ofRaw_of_unknown {entry : Text × Value} (hmem : entry ∈ respelled entries)
    (hname : ∀ key : SettingKey, entry.1 ≠ key.name) :
    ofRaw path file (.table entries) = .error (.badTable path file) := by
  rw [ofRaw_table, takeOver?_eq_none hmem hname]

/-- **Of each name the last entry stays**, in whatever spelling. -/
theorem ofRaw_of_known (path : List Text) (file : Text)
    (hknown : ∀ entry ∈ respelled entries, ∃ key : SettingKey, entry.1 = key.name) :
    ∃ s, ofRaw path file (.table entries) = .ok s
      ∧ ∀ key, s.get key
          = (Table.lookup? key.name (respelled entries).reverse).getD (standard.get key) := by
  obtain ⟨s, hs, hget⟩ := takeOver?_last (s := standard) hknown
  exact ⟨s, by rw [ofRaw_table, hs], hget⟩

/-- An entry that stands last has its way. -/
theorem ofRaw_of_last (path : List Text) (file : Text) {entry : Text × Value} {key : SettingKey}
    (hknown : ∀ entry ∈ respelled entries, ∃ key : SettingKey, entry.1 = key.name)
    (hkey : withUnderscores entry.1 = key.name) :
    ∃ s, ofRaw path file (.table (entries ++ [entry])) = .ok s ∧ s.get key = entry.2 := by
  have happend : respelled (entries ++ [entry]) = respelled entries ++ [(key.name, entry.2)] := by
    rw [respelled, List.map_append, ← respelled, ← hkey]
    rfl
  have hall : ∀ other ∈ respelled (entries ++ [entry]), ∃ key : SettingKey,
      other.1 = key.name := by
    intro other hother
    rw [happend] at hother
    rcases List.mem_append.mp hother with hother | hother
    · exact hknown other hother
    · exact ⟨key, by rw [List.mem_singleton.mp hother]⟩
  obtain ⟨s, hs, hget⟩ := ofRaw_of_known path file hall
  refine ⟨s, hs, ?_⟩
  rw [hget, happend, List.reverse_append, List.reverse_singleton, List.singleton_append,
      Table.lookup?_cons, if_pos rfl, Option.getD_some]

/-! ## §2. The order of a table. -/

/-- Whether a table is read alike in every order. -/
def Unordered (path : List Text) (file : Text) (entries : Table) : Prop :=
  ∀ reordered : Table, reordered.Perm entries →
    ofRaw path file (.table reordered) = ofRaw path file (.table entries)

theorem unordered_of_unknown {entry : Text × Value} (hmem : entry ∈ respelled entries)
    (hname : ∀ key : SettingKey, entry.1 ≠ key.name) : Unordered path file entries := by
  intro reordered hperm
  have hmem' : entry ∈ respelled reordered := (hperm.map _).mem_iff.mpr hmem
  rw [ofRaw_of_unknown hmem hname, ofRaw_of_unknown hmem' hname]

theorem unordered_of_consistent
    (hknown : ∀ entry ∈ respelled entries, ∃ key : SettingKey, entry.1 = key.name)
    (h : (respelled entries).Consistent) : Unordered path file entries := by
  intro reordered hperm
  have hrespelled : (respelled reordered).Perm (respelled entries) := hperm.map _
  have hknown' : ∀ entry ∈ respelled reordered, ∃ key : SettingKey, entry.1 = key.name :=
    fun entry hentry => hknown entry (hrespelled.mem_iff.mp hentry)
  obtain ⟨s, hs, hget⟩ := ofRaw_of_known path file hknown
  obtain ⟨s', hs', hget'⟩ := ofRaw_of_known path file hknown'
  have heq : s' = s := by
    apply Settings.ext_get
    intro key
    rw [hget, hget', Table.lookup?_perm ((List.reverse_perm _).trans hrespelled) h,
        Table.lookup?_perm (List.reverse_perm _) h]
  rw [hs, hs', heq]

/-- In some order any entry stands last. -/
theorem exists_perm_append_singleton {entry : Text × Value} (hmem : entry ∈ entries) :
    ∃ others : Table, (others ++ [entry]).Perm entries := by
  obtain ⟨before, after, rfl⟩ := List.append_of_mem hmem
  refine ⟨before ++ after, ?_⟩
  rw [List.append_assoc]
  exact (List.perm_append_singleton entry after).append_left before

/-- Read alike in every order, a table gives each setting the value of any of
its entries. -/
theorem get_of_unordered (h : Unordered path file entries) {s : RawSettings}
    (hs : ofRaw path file (.table entries) = .ok s)
    (hknown : ∀ entry ∈ respelled entries, ∃ key : SettingKey, entry.1 = key.name)
    {entry : Text × Value} (hmem : entry ∈ entries) {key : SettingKey}
    (hkey : withUnderscores entry.1 = key.name) : s.get key = entry.2 := by
  obtain ⟨others, hperm⟩ := exists_perm_append_singleton hmem
  have hothers : ∀ other ∈ respelled others, ∃ key : SettingKey, other.1 = key.name := by
    intro other hother
    refine hknown other ((hperm.map _).mem_iff.mp ?_)
    rw [List.map_append]
    exact List.mem_append_left _ hother
  obtain ⟨s', hs', hget⟩ := ofRaw_of_last path file hothers hkey
  rw [h _ hperm, hs, Except.ok.injEq] at hs'
  rw [hs', hget]

/-- **The tables that are read alike in every order**: those with an unknown
name, which are refused, and those whose spellings of one name agree. -/
theorem ofRaw_perm_iff (path : List Text) (file : Text) (entries : Table) :
    (∀ reordered : Table, reordered.Perm entries →
        ofRaw path file (.table reordered) = ofRaw path file (.table entries))
      ↔ (∃ entry ∈ entries, ∀ key : SettingKey, withUnderscores entry.1 ≠ key.name)
        ∨ ∀ entry ∈ entries, ∀ other ∈ entries,
            withUnderscores entry.1 = withUnderscores other.1 → entry.2 = other.2 := by
  by_cases hunknown : ∃ entry ∈ entries, ∀ key : SettingKey, withUnderscores entry.1 ≠ key.name
  · refine iff_of_true ?_ (Or.inl hunknown)
    obtain ⟨entry, hmem, hname⟩ := hunknown
    exact unordered_of_unknown (List.mem_map_of_mem hmem) hname
  · have hknown : ∀ entry ∈ respelled entries, ∃ key : SettingKey, entry.1 = key.name := by
      intro entry hentry
      obtain ⟨original, hmem, rfl⟩ := List.mem_map.mp hentry
      by_contra hname
      exact hunknown ⟨original, hmem, fun key heq => hname ⟨key, heq⟩⟩
    rw [or_iff_right hunknown]
    constructor
    · intro h entry hentry other hother hname
      obtain ⟨key, hkey⟩ := hknown _ (List.mem_map_of_mem hentry)
      obtain ⟨s, hs, -⟩ := ofRaw_of_known path file hknown
      rw [← get_of_unordered h hs hknown hentry hkey,
          ← get_of_unordered h hs hknown hother (hname.symm.trans hkey)]
    · intro h
      refine unordered_of_consistent hknown ?_
      intro _ hentry _ hother
      obtain ⟨entry, hmem, rfl⟩ := List.mem_map.mp hentry
      obtain ⟨other, hmem', rfl⟩ := List.mem_map.mp hother
      exact h entry hmem other hmem'

/-- **The order of a table matters** where it names a setting in two
spellings. -/
theorem ofRaw_depends_on_order :
    ¬ ∀ (path : List Text) (file : Text) (entries reordered : Table),
      (entries.map (·.1)).Nodup → reordered.Perm entries →
        ofRaw path file (.table reordered) = ofRaw path file (.table entries) := by
  intro h
  have hsame := h ["tool".toList, "tap-reader".toList] "pyproject.toml".toList
    [("iter-limit".toList, .int 1), ("iter_limit".toList, .int 2)]
    [("iter_limit".toList, .int 2), ("iter-limit".toList, .int 1)] (by decide)
    (List.Perm.swap _ _ _)
  have hvalue := congrArg (fun read => (read.toOption.map Settings.itemLimit).bind
    Value.toInteger?) hsame
  exact absurd hvalue (by decide)

end RawSettings

end TapReport
