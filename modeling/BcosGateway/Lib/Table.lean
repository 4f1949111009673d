import Mathlib.Data.List.AList

abbrev Table (K V : Type*) := AList fun _ : K => V

namespace Table

variable {K V W : Type*} [DecidableEq K]

theorem lookup_insert_if (key other : K) (value : V) (table : Table K V) :
    (table.insert key value).lookup other = if other = key then some value else table.lookup other := by
  by_cases same : other = key
  · rw [if_pos same, same, AList.lookup_insert]
  · rw [if_neg same, AList.lookup_insert_ne same]

theorem lookup_erase_if (key other : K) (table : Table K V) :
    (table.erase key).lookup other = if other = key then none else table.lookup other := by
  by_cases same : other = key
  · rw [if_pos same, same, AList.lookup_erase]
  · rw [if_neg same, AList.lookup_erase_ne same]

theorem lookup_foldl_erase (keys : List K) (other : K) (table : Table K V) :
    (keys.foldl (fun table key => table.erase key) table).lookup other =
      if other ∈ keys then none else table.lookup other := by
  induction keys generalizing table with
  | nil => simp
  | cons key keys ih =>
    rw [List.foldl_cons, ih, lookup_erase_if]
    by_cases same : other = key
    · simp [same]
    · simp [same]

theorem dlookup_kreplace (key other : K) (value : V) (entries : List (Σ _ : K, V)) :
    (entries.kreplace key value).dlookup other =
      if other = key then (entries.dlookup key).map fun _ => value else entries.dlookup other := by
  unfold List.kreplace
  induction entries with
  | nil => simp
  | cons entry entries ih =>
    obtain ⟨head, held⟩ := entry
    by_cases here : key = head
    · simp only [List.lookmap_cons, if_pos here]
      rw [here, List.dlookup_cons_eq]
      split
      · rename_i same
        rw [same, List.dlookup_cons_eq]
        rfl
      · rename_i apart
        rw [List.dlookup_cons_ne _ _ apart, List.dlookup_cons_ne _ _ apart]
    · simp only [List.lookmap_cons, if_neg here]
      rw [List.dlookup_cons_ne entries ⟨head, held⟩ here]
      by_cases same : other = head
      · rw [same, List.dlookup_cons_eq, if_neg (Ne.symm here), List.dlookup_cons_eq]
      · rw [List.dlookup_cons_ne _ _ same, List.dlookup_cons_ne _ _ same]
        exact ih

theorem lookup_replace_if (key other : K) (value : V) (table : Table K V) :
    (table.replace key value).lookup other =
      if other = key then (table.lookup key).map fun _ => value else table.lookup other :=
  dlookup_kreplace key other value table.entries

/-- `insert` of the C++ containers: a key that is present keeps its value. -/
def add (key : K) (value : V) (table : Table K V) : Table K V :=
  if key ∈ table then table else table.insert key value

theorem lookup_add (key other : K) (value : V) (table : Table K V) :
    (table.add key value).lookup other =
      if other = key then some ((table.lookup key).getD value) else table.lookup other := by
  unfold add
  by_cases present : key ∈ table
  · obtain ⟨kept, found⟩ := Option.isSome_iff_exists.mp (AList.lookup_isSome.mpr present)
    rw [if_pos present, found, Option.getD_some]
    by_cases same : other = key
    · rw [if_pos same, same, found]
    · rw [if_neg same]
  · rw [if_neg present, lookup_insert_if, AList.lookup_eq_none.mpr present, Option.getD_none]

def values (table : Table K V) : List V := table.entries.map Sigma.snd

theorem mem_values {table : Table K V} {value : V} :
    value ∈ table.values ↔ ∃ key, table.lookup key = some value := by
  simp only [values, List.mem_map, Sigma.exists, exists_eq_right]
  exact exists_congr fun key => AList.mem_lookup_iff.symm

theorem mem_keys_filter (table : Table K V) (holds : K → V → Prop)
    [∀ key value, Decidable (holds key value)] (key : K) :
    key ∈ (table.entries.filter fun entry => holds entry.1 entry.2).keys ↔
      ∃ value, table.lookup key = some value ∧ holds key value := by
  unfold List.keys
  constructor
  · intro member
    obtain ⟨⟨_, value⟩, kept, rfl⟩ := List.mem_map.mp member
    obtain ⟨present, held⟩ := List.mem_filter.mp kept
    exact ⟨value, AList.mem_lookup_iff.mpr present, of_decide_eq_true held⟩
  · rintro ⟨value, found, held⟩
    exact List.mem_map.mpr ⟨⟨key, value⟩,
      List.mem_filter.mpr ⟨AList.mem_lookup_iff.mp found, decide_eq_true held⟩, rfl⟩

omit [DecidableEq K] in
theorem keys_filter_nodup (table : Table K V) (holds : (Σ _ : K, V) → Bool) :
    (table.entries.filter holds).keys.Nodup :=
  table.nodupKeys.sublist List.filter_sublist

theorem countP_eq_one_iff (table : Table K V) (holds : K → V → Bool) :
    table.entries.countP (fun entry => holds entry.1 entry.2) = 1 ↔
      ∃ key value, table.lookup key = some value ∧ holds key value ∧
        ∀ other value', table.lookup other = some value' → holds other value' → other = key := by
  have found (entry : Σ _ : K, V) :
      entry ∈ table.entries.filter (fun entry => holds entry.1 entry.2) ↔
        table.lookup entry.1 = some entry.2 ∧ holds entry.1 entry.2 := by
    rw [List.mem_filter]
    exact and_congr_left fun _ => AList.mem_lookup_iff.symm
  rw [List.countP_eq_length_filter, List.length_eq_one_iff]
  constructor
  · rintro ⟨⟨key, value⟩, only⟩
    rw [only] at found
    obtain ⟨lookup, held⟩ := (found ⟨key, value⟩).mp List.mem_cons_self
    refine ⟨key, value, lookup, held, fun other value' lookup' held' => ?_⟩
    exact congrArg Sigma.fst (List.mem_singleton.mp ((found ⟨other, value'⟩).mpr ⟨lookup', held'⟩))
  · rintro ⟨key, value, lookup, held, unique⟩
    refine ⟨⟨key, value⟩, List.perm_singleton.mp ?_⟩
    have distinct := table.nodupKeys.nodup.filter fun entry => holds entry.1 entry.2
    apply (List.perm_ext_iff_of_nodup distinct (List.nodup_singleton _)).mpr
    rintro ⟨other, value'⟩
    rw [found, List.mem_singleton]
    constructor
    · rintro ⟨lookup', held'⟩
      obtain rfl := unique other value' lookup' held'
      rw [lookup] at lookup'
      cases lookup'
      rfl
    · rintro same
      cases same
      exact ⟨lookup, held⟩

section FilterMap

variable (update : K → V → Option W)

def filterMapEntries (entries : List (Σ _ : K, V)) : List (Σ _ : K, W) :=
  entries.filterMap fun entry => (update entry.1 entry.2).map (Sigma.mk entry.1)

omit [DecidableEq K] in
theorem filterMapEntries_keys (entries : List (Σ _ : K, V)) :
    (filterMapEntries update entries).keys.Sublist entries.keys := by
  induction entries with
  | nil => exact List.Sublist.refl _
  | cons entry entries ih =>
    unfold filterMapEntries
    rw [List.filterMap_cons]
    cases update entry.1 entry.2 with
    | none => exact ih.cons _
    | some value => exact ih.cons_cons _

def filterMap (table : Table K V) : Table K W where
  entries := filterMapEntries update table.entries
  nodupKeys := (filterMapEntries_keys update table.entries).nodup table.nodupKeys

theorem dlookup_filterMapEntries (key : K) (entries : List (Σ _ : K, V))
    (distinct : entries.NodupKeys) :
    (filterMapEntries update entries).dlookup key = (entries.dlookup key).bind (update key) := by
  induction entries with
  | nil => rfl
  | cons entry entries ih =>
    obtain ⟨head, value⟩ := entry
    obtain ⟨absent, apart⟩ := List.nodupKeys_cons.mp distinct
    unfold filterMapEntries
    rw [List.filterMap_cons]
    by_cases same : key = head
    · subst same
      rw [List.dlookup_cons_eq, Option.bind_some]
      cases kept : update key value with
      | none =>
        have rest := ih apart
        rw [List.dlookup_eq_none.mpr absent] at rest
        exact rest
      | some value => exact List.dlookup_cons_eq _ _ _
    · rw [List.dlookup_cons_ne _ _ same]
      cases kept : update head value with
      | none => exact ih apart
      | some value => exact (List.dlookup_cons_ne _ _ same).trans (ih apart)

theorem lookup_filterMap (key : K) (table : Table K V) :
    (table.filterMap update).lookup key = (table.lookup key).bind (update key) :=
  dlookup_filterMapEntries update key table.entries table.nodupKeys

end FilterMap

end Table
