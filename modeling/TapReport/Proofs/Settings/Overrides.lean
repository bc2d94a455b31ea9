/-
  TapReport.Proofs.Settings.Overrides
  ───────────────────────────────────
  **OVERRIDES COME FIRST, AND ONLY THE OUTCOME IS CHECKED.**

  Values of any kind flow into settings, from files and from overrides, and
  nothing looks at them until all four are known.  Then they are checked in two
  rounds: all must be integers before any is compared with its bound, so a value
  of another kind is a fault of its setting and of nothing else.  A bad value in
  a file does no harm exactly if a good override takes its place.

  An override without a value does nothing, whatever its name.  There is one
  exception: the names of the two arguments beside the overrides are taken, and
  an override of such a name is refused even if it has no value:
  `build_refuses_absent`.

      RawSettings.merged     what overrides make of settings
      SettingKey.Allows      the values that a setting may have
      Settings.FirstFault    the fault that a check reports

  Main results:
    * `RawSettings.override?_eq_merged` — overrides replace what they name.
    * `Settings.firstFault_of_check` — which fault is reported.
    * `Settings.build_overridden` — what is loaded and overridden comes to.
-/
import Mathlib.Data.List.Nodup
import TapReport.Proofs.Settings.Candidates
import TapReport.Proofs.Toml.Lines

namespace TapReport

/-! ## §1. Names and bounds. -/

namespace SettingKey

theorem ofName?_name (key : SettingKey) : ofName? key.name = some key := by
  cases key <;> rfl

theorem name_inj {key other : SettingKey} : key.name = other.name ↔ key = other := by
  constructor
  · intro h
    have hkey := ofName?_name key
    rw [h, ofName?_name] at hkey
    exact (Option.some.inj hkey).symm
  · exact congrArg name

theorem mem_all (key : SettingKey) : key ∈ all := by
  cases key <;> decide

theorem ofName?_eq_none_iff {t : Text} : ofName? t = none ↔ ∀ key : SettingKey, t ≠ key.name := by
  unfold ofName?
  rw [List.find?_eq_none]
  constructor
  · intro h key ht
    exact h key key.mem_all (by simp [ht])
  · intro h key _ ht
    exact h key (by simpa using ht : key.name = t).symm

/-- The least integer that a setting may have. -/
def least : SettingKey → Int
  | .indentLevel => 0
  | .itemLimit | .blockLimit | .maxFileSize => 1

/-- What is wrong with an integer below that. -/
def belowLeast : SettingKey → SettingsFault
  | .indentLevel => .negative .indentLevel
  | key => .notPositive key

/-- The values that a setting may have. -/
def Allows (key : SettingKey) (v : Value) : Prop :=
  ∃ n : Int, v = .int n ∧ key.least ≤ n

end SettingKey

/-! ## §2. What overrides make of settings. -/

namespace RawSettings

/-- The value of a setting after overrides: that of the override of its name,
if there is one with a value. -/
def mergedValue (s : RawSettings) (overrides : Table) (key : SettingKey) : Value :=
  ((Table.lookup? key.name overrides).filter Value.isPresent).getD (s.get key)

/-- What overrides make of settings. -/
def merged (s : RawSettings) (overrides : Table) : RawSettings :=
  ⟨s.mergedValue overrides .indentLevel, s.mergedValue overrides .itemLimit,
    s.mergedValue overrides .blockLimit, s.mergedValue overrides .maxFileSize⟩

@[simp] theorem get_merged (s : RawSettings) (overrides : Table) (key : SettingKey) :
    (s.merged overrides).get key = s.mergedValue overrides key := by
  cases key <;> rfl

end RawSettings

theorem Settings.ext_get {α : Type} {s s' : Settings α} (h : ∀ key, s.get key = s'.get key) :
    s = s' := by
  obtain ⟨a, b, c, d⟩ := s
  obtain ⟨a', b', c', d'⟩ := s'
  obtain rfl : a = a' := h .indentLevel
  obtain rfl : b = b' := h .itemLimit
  obtain rfl : c = c' := h .blockLimit
  obtain rfl : d = d' := h .maxFileSize
  rfl

@[simp] theorem Settings.get_map {α β : Type} (f : α → β) (s : Settings α) (key : SettingKey) :
    (s.map f).get key = f (s.get key) := by
  cases key <;> rfl

namespace Table

theorem lookup?_eq_none_iff {key : Text} {t : Table} :
    lookup? key t = none ↔ ∀ entry ∈ t, entry.1 ≠ key := by
  unfold lookup?
  rw [Option.map_eq_none_iff, List.find?_eq_none]
  simp

theorem mem_of_lookup?_eq_some {key : Text} {v : Value} {t : Table} (h : lookup? key t = some v) :
    (key, v) ∈ t := by
  obtain ⟨⟨name, w⟩, hfind, rfl⟩ := Option.map_eq_some_iff.mp h
  obtain rfl : name = key := by simpa using List.find?_some hfind
  exact List.mem_of_find?_eq_some hfind

theorem lookup?_append (key : Text) (t u : Table) :
    lookup? key (t ++ u) = (lookup? key t).or (lookup? key u) := by
  unfold lookup?
  rw [List.find?_append, Option.map_or]

/-- Entries of one name have one value. -/
def Consistent (t : Table) : Prop :=
  ∀ entry ∈ t, ∀ other ∈ t, entry.1 = other.1 → entry.2 = other.2

theorem consistent_of_nodup {t : Table} (h : (t.map (·.1)).Nodup) : t.Consistent := by
  intro entry hentry other hother hname
  rw [List.inj_on_of_nodup_map h hentry hother hname]

/-- A value that names decide does not depend on the order of the entries. -/
theorem lookup?_perm {t u : Table} (hperm : t.Perm u) (hu : u.Consistent) (key : Text) :
    lookup? key t = lookup? key u := by
  cases ht : lookup? key t with
  | none =>
    rw [lookup?_eq_none_iff] at ht
    exact (lookup?_eq_none_iff.mpr fun entry hentry => ht entry (hperm.mem_iff.mpr hentry)).symm
  | some v =>
    have hv := hperm.mem_iff.mp (mem_of_lookup?_eq_some ht)
    cases hw : lookup? key u with
    | none => exact absurd rfl (lookup?_eq_none_iff.mp hw _ hv)
    | some w => exact congrArg some (hu _ hv _ (mem_of_lookup?_eq_some hw) rfl)

/-- Where a name stands once, leaving out what has no value is leaving out its
value if it is none. -/
theorem lookup?_present {key : Text} {t : Table} (h : (t.map (·.1)).Nodup) :
    lookup? key (RawSettings.present t) = (lookup? key t).filter Value.isPresent := by
  induction t with
  | nil => rfl
  | cons entry t ih =>
    obtain ⟨name, v⟩ := entry
    rw [List.map_cons, List.nodup_cons] at h
    obtain ⟨hname, hrest⟩ := h
    have ih := ih hrest
    unfold RawSettings.present at ih ⊢
    rw [lookup?_cons, List.filter_cons]
    by_cases hkey : name = key
    · rw [if_pos hkey]
      cases hv : v.isPresent with
      | true => rw [if_pos rfl, lookup?_cons, if_pos hkey, Option.filter_some_pos hv]
      | false =>
        have hnone : lookup? key t = none := by
          rw [lookup?_eq_none_iff]
          intro other hother heq
          exact hname (List.mem_map.mpr ⟨other, hother, heq.trans hkey.symm⟩)
        rw [if_neg (by simp), ih, hnone, Option.filter_some_neg (by simp [hv])]
        rfl
    · rw [if_neg hkey, ← ih]
      cases v.isPresent with
      | true => rw [if_pos rfl, lookup?_cons, if_neg hkey]
      | false => rw [if_neg (by simp)]

end Table

namespace RawSettings

variable {s : RawSettings} {overrides : Table}

/-- **Named values are taken over one after another**: of those with one name
the last stays. -/
theorem takeOver?_last {entries : Table}
    (hknown : ∀ entry ∈ entries, ∃ key : SettingKey, entry.1 = key.name) :
    ∃ s', s.takeOver? entries = some s'
      ∧ ∀ key, s'.get key = (Table.lookup? key.name entries.reverse).getD (s.get key) := by
  -- induction on the values, which change the settings one by one
  induction entries generalizing s with
  | nil => exact ⟨s, rfl, fun key => rfl⟩
  | cons entry entries ih =>
    obtain ⟨name, v⟩ := entry
    obtain ⟨⟨here, rfl⟩, hothers⟩ := List.forall_mem_cons.mp hknown
    obtain ⟨s', hs', hget⟩ := ih (s := s.set here v) hothers
    refine ⟨s', ?_, fun key => ?_⟩
    · rw [takeOver?, SettingKey.ofName?_name]
      exact hs'
    · rw [hget, List.reverse_cons, Table.lookup?_append, Table.lookup?_cons, Settings.get_set]
      cases Table.lookup? key.name entries.reverse with
      | some w => rfl
      | none =>
        by_cases hkey : here = key
        · rw [if_pos hkey, if_pos (congrArg SettingKey.name hkey)]
          rfl
        · rw [if_neg hkey, if_neg fun hname => hkey (SettingKey.name_inj.mp hname)]
          rfl

/-- All named values are taken over, if no name stands twice. -/
theorem takeOver?_eq_some {entries : Table} (hnames : (entries.map (·.1)).Nodup)
    (hknown : ∀ entry ∈ entries, ∃ key : SettingKey, entry.1 = key.name) :
    ∃ s', s.takeOver? entries = some s'
      ∧ ∀ key, s'.get key = (Table.lookup? key.name entries).getD (s.get key) := by
  obtain ⟨s', hs', hget⟩ := takeOver?_last (s := s) hknown
  refine ⟨s', hs', fun key => ?_⟩
  rw [hget, Table.lookup?_perm (List.reverse_perm entries) (Table.consistent_of_nodup hnames)]

theorem takeOver?_eq_none {entries : Table} {entry : Text × Value} (hmem : entry ∈ entries)
    (hname : ∀ key : SettingKey, entry.1 ≠ key.name) : s.takeOver? entries = none := by
  induction entries generalizing s with
  | nil => exact absurd hmem List.not_mem_nil
  | cons other entries ih =>
    obtain ⟨name, v⟩ := other
    rw [takeOver?]
    rcases List.mem_cons.mp hmem with rfl | hmem
    · rw [SettingKey.ofName?_eq_none_iff.mpr hname]
      rfl
    · cases SettingKey.ofName? name with
      | none => rfl
      | some key => exact ih hmem

/-- **Overrides replace what they name**, if they have a value. -/
theorem override?_eq_merged (hnames : (overrides.map (·.1)).Nodup)
    (hknown : ∀ entry ∈ overrides, entry.2.isPresent = true →
      ∃ key : SettingKey, entry.1 = key.name) :
    s.override? overrides = some (s.merged overrides) := by
  have hpresent : ((present overrides).map (·.1)).Nodup :=
    hnames.sublist (List.filter_sublist.map _)
  obtain ⟨s', hs', hget⟩ := takeOver?_eq_some (s := s) hpresent
    (fun entry hentry => hknown entry (List.mem_filter.mp hentry).1 (List.mem_filter.mp hentry).2)
  unfold override?
  rw [hs', Option.some.injEq]
  apply Settings.ext_get
  intro key
  rw [hget, Table.lookup?_present hnames, get_merged]
  rfl

end RawSettings

/-- After a bad value only a good override is good. -/
theorem RawSettings.allows_mergedValue_iff {s : RawSettings} (overrides : Table)
    {key : SettingKey} (hbad : ¬ key.Allows (s.get key)) :
    key.Allows (s.mergedValue overrides key)
      ↔ ∃ v, Table.lookup? key.name overrides = some v ∧ key.Allows v := by
  unfold mergedValue
  cases Table.lookup? key.name overrides with
  | none => exact iff_of_false hbad (by simp)
  | some v =>
    simp only [Option.some.injEq, exists_eq_left']
    cases hv : v.isPresent with
    | true => rw [Option.filter_some_pos hv, Option.getD_some]
    | false =>
      rw [Option.filter_some_neg (by simp [hv]), Option.getD_none]
      refine iff_of_false hbad ?_
      intro hallows
      obtain ⟨n, rfl, -⟩ := hallows
      exact absurd hv (by simp [Value.isPresent])

/-! ## §3. Which fault is reported. -/

namespace Settings

/-- The fault that a check of settings reports: the first setting in the order
of all that is no integer, or else the first that is out of range. -/
inductive FirstFault (s : RawSettings) : SettingsFault → Prop
  /-- A setting is no integer, and all before it are. -/
  | notInteger {before after : List SettingKey} {key : SettingKey}
      (order : SettingKey.all = before ++ key :: after)
      (earlier : ∀ k ∈ before, ∃ n, s.get k = .int n) (here : ∀ n, s.get key ≠ .int n) :
      FirstFault s (.notInteger key)
  /-- All are integers, a setting is out of range, and all before it are not. -/
  | outOfRange {before after : List SettingKey} {key : SettingKey} {n : Int}
      (order : SettingKey.all = before ++ key :: after) (integers : ∀ k, ∃ n, s.get k = .int n)
      (earlier : ∀ k ∈ before, k.Allows (s.get k)) (here : s.get key = .int n)
      (low : n < key.least) : FirstFault s key.belowLeast

theorem valid_iff {n : Settings Int} : n.Valid ↔ ∀ key : SettingKey, key.least ≤ n.get key := by
  constructor
  · intro h key
    cases key with
    | indentLevel => exact h.indentLevel_nonneg
    | itemLimit => exact h.itemLimit_pos
    | blockLimit => exact h.blockLimit_pos
    | maxFileSize => exact h.maxFileSize_pos
  · intro h
    exact ⟨h .indentLevel, h .itemLimit, h .blockLimit, h .maxFileSize⟩

/-- **A check succeeds** exactly with the integers that all settings are, none
of them below its bound. -/
theorem check_eq_ok_iff_allows {s : RawSettings} {n : Settings Int} :
    s.check = .ok n ↔ (∀ key, SettingKey.Allows key (s.get key)) ∧ s = n.map .int := by
  rw [check_eq_ok_iff, valid_iff]
  constructor
  · intro h
    obtain ⟨rfl, hleast⟩ := h
    exact ⟨fun key => ⟨n.get key, get_map Value.int n key, hleast key⟩, rfl⟩
  · intro h
    obtain ⟨hallows, rfl⟩ := h
    refine ⟨rfl, fun key => ?_⟩
    obtain ⟨m, hm, hleast⟩ := hallows key
    rw [get_map] at hm
    rwa [Value.int.inj hm]

theorem exists_eq_map_of_allows {s : RawSettings} (h : ∀ key, SettingKey.Allows key (s.get key)) :
    ∃ n : Settings Int, s = n.map .int := by
  obtain ⟨a, ha, -⟩ := h .indentLevel
  obtain ⟨b, hb, -⟩ := h .itemLimit
  obtain ⟨c, hc, -⟩ := h .blockLimit
  obtain ⟨d, hd, -⟩ := h .maxFileSize
  refine ⟨⟨a, b, c, d⟩, ext_get fun key => ?_⟩
  cases key with
  | indentLevel => exact ha
  | itemLimit => exact hb
  | blockLimit => exact hc
  | maxFileSize => exact hd

theorem integer_eq_ok_iff {s : RawSettings} {key : SettingKey} {n : Int} :
    toIntegers.integer s key = .ok n ↔ s.get key = .int n := by
  rw [← Value.toInteger?_eq_some_iff]
  unfold toIntegers.integer
  cases (s.get key).toInteger? <;> simp

theorem of_integer_eq_error {s : RawSettings} {key : SettingKey} {e : SettingsFault}
    (h : toIntegers.integer s key = .error e) :
    e = .notInteger key ∧ ∀ n, s.get key ≠ .int n := by
  constructor
  · unfold toIntegers.integer at h
    split at h
    · exact absurd h (by simp)
    · exact (Except.error.inj h).symm
  · intro n hn
    rw [integer_eq_ok_iff.mpr hn] at h
    exact absurd h (by simp)

theorem of_bind_eq_error {α β : Type} {x : Except SettingsFault α}
    {f : α → Except SettingsFault β} {e : SettingsFault} (h : x >>= f = .error e) :
    x = .error e ∨ ∃ a, x = .ok a ∧ f a = .error e := by
  cases x with
  | error e' => exact .inl (congrArg _ (Except.error.inj h))
  | ok a => exact .inr ⟨a, rfl, h⟩

/-- The first round: the settings are looked at in order. -/
theorem firstFault_of_toIntegers {s : RawSettings} {e : SettingsFault}
    (h : s.toIntegers = .error e) : FirstFault s e := by
  have hfirst : ∀ before key after, SettingKey.all = before ++ key :: after →
      (∀ k ∈ before, ∃ n, s.get k = .int n) → toIntegers.integer s key = .error e →
        FirstFault s e := by
    intro before key after order earlier herror
    obtain ⟨rfl, hnone⟩ := of_integer_eq_error herror
    exact .notInteger order earlier hnone
  unfold toIntegers at h
  rcases of_bind_eq_error h with h | ⟨a, ha, h⟩
  · exact hfirst [] _ _ rfl (fun k hk => absurd hk List.not_mem_nil) h
  have ha : ∃ n, s.get .indentLevel = .int n := ⟨a, integer_eq_ok_iff.mp ha⟩
  rcases of_bind_eq_error h with h | ⟨b, hb, h⟩
  · exact hfirst [.indentLevel] _ _ rfl (by simpa using ha) h
  have hb : ∃ n, s.get .itemLimit = .int n := ⟨b, integer_eq_ok_iff.mp hb⟩
  rcases of_bind_eq_error h with h | ⟨c, hc, h⟩
  · exact hfirst [.indentLevel, .itemLimit] _ _ rfl (by simpa using ⟨ha, hb⟩) h
  have hc : ∃ n, s.get .blockLimit = .int n := ⟨c, integer_eq_ok_iff.mp hc⟩
  rcases of_bind_eq_error h with h | ⟨d, -, h⟩
  · exact hfirst [.indentLevel, .itemLimit, .blockLimit] _ _ rfl (by simpa using ⟨ha, hb, hc⟩) h
  · exact absurd h (by simp [pure, Except.pure])

/-- The second round: the integers are compared with their bounds in order. -/
theorem firstFault_of_rangeFault? {n : Settings Int} {e : SettingsFault}
    (h : n.rangeFault? = some e) : FirstFault (n.map .int) e := by
  have hfirst : ∀ before key after, SettingKey.all = before ++ key :: after →
      (∀ k ∈ before, k.least ≤ n.get k) → n.get key < key.least →
        FirstFault (n.map .int) key.belowLeast := by
    intro before key after order earlier low
    refine .outOfRange order (fun k => ⟨_, get_map Value.int n k⟩) ?_ (get_map _ n key) low
    exact fun k hk => ⟨_, get_map Value.int n k, earlier k hk⟩
  unfold rangeFault? at h
  split at h
  · next low =>
    obtain rfl := Option.some.inj h
    exact hfirst [] .indentLevel _ rfl (fun k hk => absurd hk List.not_mem_nil) low
  next ha =>
  have ha : SettingKey.indentLevel.least ≤ n.get .indentLevel := Int.not_lt.mp ha
  split at h
  · next low =>
    obtain rfl := Option.some.inj h
    exact hfirst [.indentLevel] .itemLimit _ rfl (by simpa using ha) (Int.lt_add_one_iff.mpr low)
  next hb =>
  have hb : SettingKey.itemLimit.least ≤ n.get .itemLimit := Int.not_le.mp hb
  split at h
  · next low =>
    obtain rfl := Option.some.inj h
    exact hfirst [.indentLevel, .itemLimit] .blockLimit _ rfl (by simpa using ⟨ha, hb⟩)
      (Int.lt_add_one_iff.mpr low)
  next hc =>
  have hc : SettingKey.blockLimit.least ≤ n.get .blockLimit := Int.not_le.mp hc
  split at h
  · next low =>
    obtain rfl := Option.some.inj h
    exact hfirst [.indentLevel, .itemLimit, .blockLimit] .maxFileSize _ rfl
      (by simpa using ⟨ha, hb, hc⟩) (Int.lt_add_one_iff.mpr low)
  · exact absurd h (by simp)

/-- **The fault of a check** is the first in two rounds. -/
theorem firstFault_of_check {s : RawSettings} {e : SettingsFault} (h : s.check = .error e) :
    FirstFault s e := by
  unfold check at h
  cases hn : s.toIntegers with
  | error e' =>
    rw [hn] at h
    obtain rfl := Except.error.inj h
    exact firstFault_of_toIntegers hn
  | ok n =>
    obtain rfl := toIntegers_eq_ok_iff.mp hn
    rw [hn] at h
    cases hr : n.rangeFault? with
    | some e' =>
      simp only [hr] at h
      obtain rfl := Except.error.inj h
      exact firstFault_of_rangeFault? hr
    | none =>
      simp only [hr] at h
      exact absurd h (by simp)

end Settings

/-! ## §4. Loading, overriding and checking. -/

namespace Settings

variable {host : Host} {path : Text} {overrides : Table} {f : RawSettings}

/-- A name that one of the arguments beside the overrides has. -/
def IsTaken (name : Text) : Prop :=
  name = RawSettings.baseName ∨ name = pathName

theorem lookup?_isSome_iff {name : Text} :
    (Table.lookup? name overrides).isSome = true ↔ ∃ entry ∈ overrides, entry.1 = name := by
  rw [← Option.ne_none_iff_isSome, ne_eq, Table.lookup?_eq_none_iff]
  simp only [not_forall, not_not, exists_prop]

/-- An override of a name that is taken or unknown is refused. -/
theorem build_of_refused (hload : RawSettings.load host path = .ok f)
    {entry : Text × Value} (hmem : entry ∈ overrides)
    (hentry : IsTaken entry.1 ∨ entry.2.isPresent = true ∧ ∀ key : SettingKey, entry.1 ≠ key.name) :
    build host path overrides = .error .unknownOverride := by
  unfold build
  split
  · rfl
  next hpath =>
  rw [hload]
  show afterOverrides overrides f = _
  unfold afterOverrides RawSettings.overrideNamed?
  rcases hentry with htaken | ⟨hpresent, hname⟩
  · rcases htaken with hbase | hname
    · rw [if_pos (lookup?_isSome_iff.mpr ⟨entry, hmem, hbase⟩)]
    · exact absurd (lookup?_isSome_iff.mpr ⟨entry, hmem, hname⟩) hpath
  · have hnone : f.override? overrides = none :=
      RawSettings.takeOver?_eq_none (List.mem_filter.mpr ⟨hmem, hpresent⟩) hname
    simp only [hnone, ite_self]

/-- Other overrides replace what is loaded, and the outcome is checked. -/
theorem build_of_known (hload : RawSettings.load host path = .ok f)
    (hnames : (overrides.map (·.1)).Nodup) (hfree : ∀ entry ∈ overrides, ¬ IsTaken entry.1)
    (hknown : ∀ entry ∈ overrides, entry.2.isPresent = true →
      ∃ key : SettingKey, entry.1 = key.name) :
    build host path overrides = (f.merged overrides).check.mapError .settings := by
  have hlookup : ∀ name, IsTaken name → ¬ (Table.lookup? name overrides).isSome = true := by
    intro name hname hsome
    obtain ⟨entry, hmem, rfl⟩ := lookup?_isSome_iff.mp hsome
    exact hfree entry hmem hname
  unfold build
  rw [if_neg (hlookup _ (.inr rfl)), hload]
  show afterOverrides overrides f = _
  unfold afterOverrides RawSettings.overrideNamed?
  rw [if_neg (hlookup _ (.inl rfl)), RawSettings.override?_eq_merged hnames hknown]

/-- **Overrides come first, and only the outcome is checked.**  An override of a
name that is taken, with a value or without, and one of an unknown name that has
a value are refused.  Otherwise the settings are valid exactly if the outcome of
loading and overriding is four integers in range, and they are these; if they
are not valid, the fault is the first that a check finds.  A bad value that was
loaded does no harm exactly if there is a good override for it. -/
theorem build_overridden (hload : RawSettings.load host path = .ok f)
    (hnames : (overrides.map (·.1)).Nodup) :
    ((∃ entry ∈ overrides, IsTaken entry.1
          ∨ entry.2.isPresent = true ∧ ∀ key : SettingKey, entry.1 ≠ key.name) →
        build host path overrides = .error .unknownOverride)
      ∧ ((∀ entry ∈ overrides, ¬ IsTaken entry.1) →
        (∀ entry ∈ overrides, entry.2.isPresent = true → ∃ key : SettingKey, entry.1 = key.name) →
          (∀ n, build host path overrides = .ok n ↔
              (∀ key, SettingKey.Allows key ((f.merged overrides).get key))
                ∧ f.merged overrides = n.map .int)
          ∧ (¬ (∀ key, SettingKey.Allows key ((f.merged overrides).get key)) →
            ∃ e, build host path overrides = .error (.settings e)
              ∧ FirstFault (f.merged overrides) e)
          ∧ ∀ key, ¬ SettingKey.Allows key (f.get key) →
            ((∃ n, build host path overrides = .ok n) ↔
              (∃ v, Table.lookup? key.name overrides = some v ∧ key.Allows v)
                ∧ ∀ other ≠ key, other.Allows ((f.merged overrides).get other))) := by
  constructor
  · intro hrefused
    obtain ⟨entry, hmem, hentry⟩ := hrefused
    exact build_of_refused hload hmem hentry
  · intro hfree hknown
    have hbuild := build_of_known hload hnames hfree hknown
    have hok : ∀ n, build host path overrides = .ok n ↔
        (∀ key, SettingKey.Allows key ((f.merged overrides).get key))
          ∧ f.merged overrides = n.map .int := by
      intro n
      rw [hbuild, ← check_eq_ok_iff_allows]
      cases (f.merged overrides).check <;> simp [Except.mapError]
    refine ⟨hok, ?_, ?_⟩
    · intro hbad
      cases hcheck : (f.merged overrides).check with
      | ok n => exact absurd (check_eq_ok_iff_allows.mp hcheck).1 hbad
      | error e => exact ⟨e, by rw [hbuild, hcheck]; rfl, firstFault_of_check hcheck⟩
    · intro key hbad
      have hgood := RawSettings.allows_mergedValue_iff overrides hbad
      rw [← RawSettings.get_merged] at hgood
      rw [← hgood]
      constructor
      · intro hbuilt
        obtain ⟨n, hn⟩ := hbuilt
        have hall := ((hok n).mp hn).1
        exact ⟨hall key, fun other _ => hall other⟩
      · intro hothers
        obtain ⟨hkey, hothers⟩ := hothers
        have hall : ∀ other, SettingKey.Allows other ((f.merged overrides).get other) := by
          intro other
          by_cases heq : other = key
          · rw [heq]
            exact hkey
          · exact hothers other heq
        obtain ⟨n, hn⟩ := exists_eq_map_of_allows hall
        exact ⟨n, (hok n).mpr ⟨hall, hn⟩⟩

/-! ## §5. A folder with a bad and a good value. -/

/-- A file with one value that is no integer and one that is in range. -/
def mixedText : Text := "[tool.tap-reader]\nindent-level = 'x'\niter_limit = 7\n".toList

/-- A folder with this file. -/
def mixedFolder : FileTree :=
  .folder [("pyproject.toml".toList, .file (Utf8.encode mixedText))]

/-- The candidate in it. -/
def mixedCandidate : Candidate :=
  ⟨["pyproject.toml".toList], Candidate.toolKeys⟩

/-- Its table. -/
def mixedTable : Table :=
  [("indent-level".toList, .text ['x']), ("iter_limit".toList, .int 7)]

/-- What is read of it, after a line. -/
def mixedDraft (entries : Table) : Toml.Draft where
  entries := [("tool".toList, .table [("tap-reader".toList, .table entries)])]
  header := Candidate.toolKeys
  declared := [Candidate.toolKeys]
  dotted := []
  closed := []

theorem isDocument_mixed : IsDocument Host.usualRoom (Utf8.encode mixedText)
    [("tool".toList, .table [("tap-reader".toList, .table mixedTable)])] := by
  have hplain : '\r' ∉ mixedText := by decide
  have hlength : mixedText.length = 49 + 3 := rfl
  have hheader : Toml.readStatement (Host.usualRoom mixedText) .empty (Toml.skipBlanks mixedText)
      = .ok (mixedDraft [], "\nindent-level = 'x'\niter_limit = 7\n".toList) := rfl
  have hfirst : Toml.skipComment
      (Toml.skipBlanks "\nindent-level = 'x'\niter_limit = 7\n".toList)
      = .ok ('\n' :: 'i' :: "ndent-level = 'x'\niter_limit = 7\n".toList) := rfl
  -- the entry that is no integer
  have hstart : Toml.skipBlanks ('i' :: "ndent-level = 'x'\niter_limit = 7\n".toList)
      = 'i' :: "ndent-level = 'x'\niter_limit = 7\n".toList := rfl
  have hindent : Toml.readKey ('i' :: "ndent-level = 'x'\niter_limit = 7\n".toList)
      = .ok (["indent-level".toList], '=' :: " 'x'\niter_limit = 7\n".toList) := rfl
  have htext : Toml.readValue (Host.usualRoom mixedText)
      (Toml.skipBlanks " 'x'\niter_limit = 7\n".toList)
      = .ok (.text ['x'], "\niter_limit = 7\n".toList) := rfl
  have hset : Toml.Draft.setEntry? (mixedDraft []) ["indent-level".toList] (.text ['x'])
      = some (mixedDraft [("indent-level".toList, .text ['x'])]) := rfl
  have hsecond : Toml.skipComment (Toml.skipBlanks "\niter_limit = 7\n".toList)
      = .ok ('\n' :: 'i' :: "ter_limit = 7\n".toList) := rfl
  -- the entry in range
  have hstart' : Toml.skipBlanks ('i' :: "ter_limit = 7\n".toList)
      = 'i' :: "ter_limit = 7\n".toList := rfl
  have hlimit : Toml.readKey ('i' :: "ter_limit = 7\n".toList)
      = .ok (["iter_limit".toList], '=' :: " 7\n".toList) := rfl
  have hnumber : Toml.readValue (Host.usualRoom mixedText) (Toml.skipBlanks " 7\n".toList)
      = .ok (.int 7, ['\n']) := rfl
  have hset' : Toml.Draft.setEntry? (mixedDraft [("indent-level".toList, .text ['x'])])
      ["iter_limit".toList] (.int 7) = some (mixedDraft mixedTable) := rfl
  have hthird : Toml.skipComment (Toml.skipBlanks ['\n']) = .ok ['\n'] := rfl
  have hstatement := Toml.readStatement_entry_of_value (by decide) hindent htext hset
  have hstatement' := Toml.readStatement_entry_of_value (by decide) hlimit hnumber hset'
  refine ⟨mixedText, rfl, ?_⟩
  rw [Toml.parse_eq_readLinesWithin hplain, Toml.readLinesWithin_of_line rfl hheader hfirst,
    hlength, Toml.readLinesWithin_of_line hstart hstatement hsecond,
    Toml.readLinesWithin_of_line hstart' hstatement' hthird]
  rfl

/-- The host that has it. -/
def mixedHost : Host := mixedFolder.host [] Host.usualRoom

theorem present_mixed : mixedCandidate.Present mixedHost (.table mixedTable) :=
  ⟨_, _, ⟨⟨_, rfl⟩, rfl⟩, isDocument_mixed, .into rfl (.into rfl (.done _))⟩

/-- The bad value is loaded like the good one. -/
theorem load_mixedHost : RawSettings.load mixedHost ['.']
    = .ok ⟨.text ['x'], .int 7, .int 10000, .int 10485760⟩ := by
  obtain ⟨rest, haround⟩ : ∃ rest, Candidate.around [] = mixedCandidate :: rest := ⟨_, rfl⟩
  have hresolve : mixedHost.resolve ['.'] = .ok [] := FileTree.resolve_host (by decide)
  rw [RawSettings.load_eq_firstOf hresolve, haround,
    Candidate.firstOf_of_present (Candidate.value?_of_present present_mixed)]
  rfl

/-- A good override for the bad value, and two others without a value. -/
def mixedOverrides : Table :=
  [("indent_level".toList, .int 4), ("yaml_line_limit".toList, .null), ("colour".toList, .null)]

/-- The good override makes the settings valid, and without it they are not. -/
theorem build_overridden_mixedFolder :
    RawSettings.load mixedHost ['.']
        = .ok ⟨.text ['x'], .int 7, .int 10000, .int 10485760⟩
      ∧ (mixedOverrides.map (·.1)).Nodup
      ∧ build mixedHost ['.'] mixedOverrides = .ok ⟨4, 7, 10000, 10485760⟩
      ∧ ¬ ∃ n, build mixedHost ['.'] [] = .ok n := by
  have hnames : (mixedOverrides.map (·.1)).Nodup := by decide
  refine ⟨load_mixedHost, hnames, ?_, ?_⟩
  · have hfree : ∀ entry ∈ mixedOverrides, ¬ IsTaken entry.1 := by
      simp only [IsTaken]
      decide
    have hknown : ∀ entry ∈ mixedOverrides, entry.2.isPresent = true →
        ∃ key : SettingKey, entry.1 = key.name := by
      intro entry hentry hpresent
      have hothers : ∀ entry ∈ mixedOverrides.tail, ¬ entry.2.isPresent = true := by decide
      rcases List.mem_cons.mp hentry with rfl | hentry
      · exact ⟨.indentLevel, rfl⟩
      · exact absurd hpresent (hothers entry hentry)
    have hok := ((build_overridden load_mixedHost hnames).2 hfree hknown).1
    refine (hok _).mpr ⟨fun key => ?_, rfl⟩
    cases key
    all_goals exact ⟨_, rfl, by decide⟩
  · have hbad : ¬ SettingKey.Allows .indentLevel (.text ['x']) := by
      simp [SettingKey.Allows]
    have hnone : ([] : Table).map (·.1) = [] := rfl
    have hharmless := ((build_overridden load_mixedHost (hnone ▸ List.nodup_nil)).2
      (fun _ h => absurd h List.not_mem_nil) (fun _ h => absurd h List.not_mem_nil)).2.2
        .indentLevel hbad
    intro hbuilt
    obtain ⟨⟨v, hv, -⟩, -⟩ := hharmless.mp hbuilt
    exact absurd hv (by simp [Table.lookup?])

/-- A host without any file. -/
def emptyHost : Host := FileTree.host (.folder []) [] Host.usualRoom

/-- **A name that is taken spoils the settings** even without a value, although
no setting has this name and there is nothing to override. -/
theorem build_refuses_absent :
    ¬ ∀ (host : Host) (path : Text) (overrides : Table) (f : RawSettings),
      RawSettings.load host path = .ok f → (overrides.map (·.1)).Nodup →
        (∀ entry ∈ overrides, entry.2.isPresent = true →
          ∃ key : SettingKey, entry.1 = key.name) →
        ∀ n, build host path overrides = .ok n ↔
          (∀ key, SettingKey.Allows key ((f.merged overrides).get key))
            ∧ f.merged overrides = n.map .int := by
  intro h
  have hbuild := h emptyHost ['.'] [(RawSettings.baseName, .null)] .standard rfl
    (List.nodup_singleton _) (by simp [Value.isPresent]) .standard
  have hok : build emptyHost ['.'] [(RawSettings.baseName, .null)] = .ok .standard := by
    refine hbuild.mpr ⟨fun key => ?_, rfl⟩
    cases key
    all_goals exact ⟨_, rfl, by decide⟩
  have herror : build emptyHost ['.'] [(RawSettings.baseName, .null)]
      = .error .unknownOverride := rfl
  rw [herror] at hok
  exact absurd hok (by simp)

end Settings

end TapReport
