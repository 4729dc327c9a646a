import Mathlib.Data.List.Basic
import TypeScaffold.Keyed
import TypeScaffold.Proofs.NameSet

/-!
# Laws of entries by key

Changing values commutes with putting pairs, so two tables made of one list have the same keys in
the same order. The value of a key is that of its last pair. Entries whose keys are distinct are
their own table, and looking up does not depend on their order. Putting is associative: pairs may
first be made into tables and those be put together.
-/

namespace TypeScaffold.Keyed

universe u v

variable {α : Type u} {β : Type v}

/-- The entries with each value changed; the change may look at the key. -/
def mapEntries (change : String → α → β) (entries : Keyed α) : Keyed β :=
  entries.map (fun entry => (entry.1, change entry.1 entry.2))

/-! ## Changing values -/

@[simp]
theorem keys_mapEntries (change : String → α → β) (entries : Keyed α) :
    (mapEntries change entries).keys = entries.keys := by
  simp [mapEntries, keys]

@[simp]
theorem get?_mapEntries (change : String → α → β) (key : String) (entries : Keyed α) :
    get? key (mapEntries change entries) = (get? key entries).map (change key) := by
  induction entries with
  | nil => rfl
  | cons entry rest inductionHypothesis =>
      simp only [mapEntries] at inductionHypothesis
      by_cases same : entry.1 = key
      · subst same
        simp [mapEntries, get?]
      · simp [mapEntries, get?, same, inductionHypothesis]

theorem put_mapEntries
    (change : String → α → β) (key : String) (value : α) (entries : Keyed α) :
    (mapEntries change entries).put key (change key value) =
      mapEntries change (entries.put key value) := by
  induction entries with
  | nil => rfl
  | cons entry rest inductionHypothesis =>
      simp only [mapEntries] at inductionHypothesis
      by_cases same : entry.1 = key
      · subst same
        simp [mapEntries, put]
      · simp [mapEntries, put, same, inductionHypothesis]

theorem putAll_mapEntries (change : String → α → β) :
    ∀ (pairs : List (String × α)) (entries : Keyed α),
      (mapEntries change entries).putAll (mapEntries change pairs) =
        mapEntries change (entries.putAll pairs)
  | [], _ => rfl
  | (key, value) :: rest, entries => by
      have step := putAll_mapEntries change rest (entries.put key value)
      rw [← put_mapEntries] at step
      exact step

theorem ofList_mapEntries (change : String → α → β) (pairs : List (String × α)) :
    ofList (mapEntries change pairs) = mapEntries change (ofList pairs) :=
  putAll_mapEntries change pairs []

/-! ## Entries and their values -/

theorem mem_of_get?
    {key : String} {value : α} {entries : Keyed α} (found : get? key entries = some value) :
    (key, value) ∈ entries := by
  induction entries with
  | nil => cases found
  | cons entry rest inductionHypothesis =>
      rw [get?] at found
      split at found
      · rename_i same
        cases found
        exact List.mem_cons.mpr (Or.inl (Prod.ext same.symm rfl))
      · exact List.mem_cons_of_mem entry (inductionHypothesis found)

theorem get?_eq_some_iff
    {key : String} {value : α} {entries : Keyed α} (distinct : entries.keys.Nodup) :
    get? key entries = some value ↔ (key, value) ∈ entries := by
  constructor
  · exact mem_of_get?
  · intro member
    induction entries with
    | nil => cases member
    | cons entry rest inductionHypothesis =>
        obtain ⟨fresh, distinctRest⟩ := List.nodup_cons.mp distinct
        rcases List.mem_cons.mp member with rfl | later
        · simp [get?]
        · have different : entry.1 ≠ key := by
            intro same
            exact fresh (same ▸ List.mem_map_of_mem later)
          rw [get?, if_neg different]
          exact inductionHypothesis distinctRest later

/-- Looking up in entries with distinct keys does not depend on their order. -/
theorem get?_eq_of_perm
    {entries others : Keyed α} (distinct : entries.keys.Nodup)
    (permutation : entries.Perm others) (key : String) :
    get? key entries = get? key others := by
  have distinctOthers : others.keys.Nodup :=
    (permutation.map Prod.fst).nodup_iff.mp distinct
  apply Option.ext
  intro value
  rw [get?_eq_some_iff distinct, get?_eq_some_iff distinctOthers, permutation.mem_iff]

theorem mem_put {entry : String × α} {key : String} {value : α} {entries : Keyed α}
    (member : entry ∈ entries.put key value) : entry = (key, value) ∨ entry ∈ entries := by
  induction entries with
  | nil =>
      exact Or.inl (List.mem_singleton.mp member)
  | cons head rest inductionHypothesis =>
      rw [put] at member
      split at member
      · rename_i same
        rcases List.mem_cons.mp member with equal | later
        · exact Or.inl (same ▸ equal)
        · exact Or.inr (List.mem_cons_of_mem head later)
      · rcases List.mem_cons.mp member with equal | later
        · exact Or.inr (List.mem_cons.mpr (Or.inl equal))
        · rcases inductionHypothesis later with equal | old
          · exact Or.inl equal
          · exact Or.inr (List.mem_cons_of_mem head old)

theorem mem_putAll {entry : String × α} :
    ∀ {pairs : List (String × α)} {entries : Keyed α},
      entry ∈ entries.putAll pairs → entry ∈ pairs ∨ entry ∈ entries
  | [], _, member => Or.inr member
  | (key, value) :: rest, entries, member => by
      rw [putAll] at member
      rcases mem_putAll member with later | earlier
      · exact Or.inl (List.mem_cons_of_mem (key, value) later)
      · rcases mem_put earlier with rfl | old
        · exact Or.inl List.mem_cons_self
        · exact Or.inr old

theorem mem_of_mem_ofList {entry : String × α} {pairs : List (String × α)}
    (member : entry ∈ ofList pairs) : entry ∈ pairs := by
  rcases mem_putAll member with there | nowhere
  · exact there
  · cases nowhere

/-! ## The last pair of a key -/

/-- The pairs have the value under the key, and no later pair has that key. -/
def IsLast (key : String) (value : α) (pairs : List (String × α)) : Prop :=
  ∃ before after, pairs = before ++ (key, value) :: after ∧ key ∉ keys after

theorem isLast_cons_iff {key name : String} {value first : α} {rest : List (String × α)} :
    IsLast key value ((name, first) :: rest) ↔
      IsLast key value rest ∨ (name = key ∧ first = value ∧ key ∉ keys rest) := by
  constructor
  · intro last
    obtain ⟨before, after, split, absent⟩ := last
    rcases List.cons_eq_append_iff.mp split with ⟨rfl, head⟩ | ⟨others, rfl, tail⟩
    · cases head
      exact Or.inr ⟨rfl, rfl, absent⟩
    · exact Or.inl ⟨others, after, tail, absent⟩
  · intro last
    rcases last with ⟨before, after, rfl, absent⟩ | ⟨rfl, rfl, absent⟩
    · exact ⟨(name, first) :: before, after, rfl, absent⟩
    · exact ⟨[], rest, rfl, absent⟩

theorem IsLast.mem_keys {key : String} {value : α} {pairs : List (String × α)}
    (last : IsLast key value pairs) : key ∈ keys pairs := by
  obtain ⟨before, after, rfl, _⟩ := last
  simp [keys]

theorem exists_isLast_iff {key : String} {pairs : List (String × α)} :
    (∃ value, IsLast key value pairs) ↔ key ∈ keys pairs := by
  constructor
  · intro last
    obtain ⟨_, last⟩ := last
    exact last.mem_keys
  · intro there
    induction pairs with
    | nil => cases there
    | cons pair rest inductionHypothesis =>
        by_cases later : key ∈ keys rest
        · obtain ⟨value, last⟩ := inductionHypothesis later
          exact ⟨value, isLast_cons_iff.mpr (Or.inl last)⟩
        · have same : pair.1 = key := ((List.mem_cons.mp there).resolve_right later).symm
          exact ⟨pair.2, isLast_cons_iff.mpr (Or.inr ⟨same, rfl, later⟩)⟩

/-- A key has the value of its last pair; without a pair it has the value that it had before. -/
theorem get?_putAll_eq_some_iff {key : String} {value : α} :
    ∀ {pairs : List (String × α)} {entries : Keyed α},
      get? key (entries.putAll pairs) = some value ↔
        IsLast key value pairs ∨ (key ∉ keys pairs ∧ get? key entries = some value)
  | [], entries => by
      simp [putAll, IsLast, keys]
  | (name, first) :: rest, entries => by
      rw [putAll, get?_putAll_eq_some_iff, isLast_cons_iff, or_assoc]
      apply or_congr_right
      by_cases same : name = key
      · subst same
        simp [keys, and_comm]
      · simp [keys, get?_put_of_ne first entries same, same, Ne.symm same]

theorem get?_ofList_eq_some_iff {key : String} {value : α} {pairs : List (String × α)} :
    get? key (ofList pairs) = some value ↔ IsLast key value pairs := by
  rw [ofList, get?_putAll_eq_some_iff]
  simp [get?]

/-! ## The keys of a table -/

theorem keys_putAll : ∀ (pairs : List (String × α)) (entries : Keyed α),
    (entries.putAll pairs).keys =
      entries.keys ++ ((keys pairs).filter (fun key => key ∉ entries.keys)).eraseDups
  | [], entries => (List.append_nil entries.keys).symm
  | (key, value) :: rest, entries => by
      have first : keys ((key, value) :: rest) = key :: keys rest := rfl
      rw [putAll, keys_putAll, keys_put, first]
      by_cases there : key ∈ entries.keys
      · rw [if_pos there, List.filter_cons_of_neg (by simpa using there)]
      · rw [if_neg there, List.filter_cons_of_pos (by simpa using there), List.eraseDups_cons,
          List.filter_filter, List.append_assoc, List.singleton_append]
        congr 3
        apply List.filter_congr
        intro other _
        by_cases same : other = key <;> simp [same]

/-- The keys of a table stand in the order in which they first come. -/
theorem keys_ofList (pairs : List (String × α)) : (ofList pairs).keys = (keys pairs).eraseDups := by
  rw [ofList, keys_putAll, List.filter_eq_self.mpr (by simp [keys])]
  rfl

/-- The values of entries with distinct keys are what looking up their keys finds. -/
theorem filterMap_get?_keys {entries : Keyed α} (distinct : entries.keys.Nodup) :
    entries.keys.filterMap (fun key => get? key entries) = entries.map Prod.snd := by
  rw [keys, List.filterMap_map, List.filterMap_eq_map_iff_forall_eq_some]
  intro entry member
  exact (get?_eq_some_iff distinct).mpr member

/-! ## Pairs with distinct keys -/

theorem put_of_notMem
    {key : String} {entries : Keyed α} (fresh : key ∉ entries.keys) (value : α) :
    entries.put key value = entries ++ [(key, value)] := by
  induction entries with
  | nil => rfl
  | cons entry rest inductionHypothesis =>
      simp only [keys, List.map_cons, List.mem_cons, not_or] at fresh
      rw [put, if_neg (Ne.symm fresh.1), inductionHypothesis fresh.2]
      rfl

theorem putAll_of_nodup :
    ∀ (pairs : List (String × α)) (entries : Keyed α),
      keys (entries ++ pairs) |>.Nodup → entries.putAll pairs = entries ++ pairs
  | [], entries, _ => (List.append_nil entries).symm
  | (key, value) :: rest, entries, distinct => by
      have fresh : key ∉ entries.keys := by
        intro there
        rw [keys, List.map_append, List.nodup_append] at distinct
        exact distinct.2.2 key there key List.mem_cons_self rfl
      rw [putAll, put_of_notMem fresh, putAll_of_nodup rest _ (by simpa using distinct)]
      simp

theorem ofList_of_nodup {pairs : List (String × α)} (distinct : keys pairs |>.Nodup) :
    ofList pairs = pairs :=
  putAll_of_nodup pairs [] distinct

/-- Putting pairs with distinct keys hides the entries under those keys and no others. -/
theorem get?_putAll : ∀ {pairs : List (String × α)} {entries : Keyed α},
    (keys pairs).Nodup → ∀ key,
      get? key (entries.putAll pairs) = (get? key pairs).or (get? key entries)
  | [], _, _, _ => rfl
  | (name, value) :: rest, entries, distinct, key => by
      obtain ⟨fresh, distinctRest⟩ := List.nodup_cons.mp distinct
      rw [putAll, get?_putAll distinctRest]
      by_cases same : name = key
      · subst same
        have absent : get? name rest = none := get?_eq_none_iff.mpr fresh
        rw [absent, get?_put_self, get?, if_pos rfl]
        rfl
      · rw [get?_put_of_ne value entries same, get?, if_neg same]

/-- Of entries whose keys are distinct, one alone has the key of a given one. -/
theorem filter_key_eq_singleton {key : α → String} {entries : List α}
    (distinct : (entries.map key).Nodup) {entry : α} (member : entry ∈ entries) :
    entries.filter (fun other => key other == key entry) = [entry] := by
  induction entries with
  | nil => cases member
  | cons head rest inductionHypothesis =>
      obtain ⟨fresh, distinctRest⟩ := List.nodup_cons.mp distinct
      rcases List.mem_cons.mp member with rfl | later
      · have others : rest.filter (fun other => key other == key entry) = [] := by
          rw [List.filter_eq_nil_iff]
          intro other there same
          exact fresh (eq_of_beq same ▸ List.mem_map_of_mem there)
        rw [List.filter_cons, if_pos BEq.rfl, others]
      · have different : ¬ (key head == key entry) = true := by
          intro same
          exact fresh (eq_of_beq same ▸ List.mem_map_of_mem later)
        rw [List.filter_cons, if_neg different]
        exact inductionHypothesis distinctRest later

/-! ## Tables put into tables -/

/-- Tables with the same keys in the same order are equal if looking up finds the same. -/
theorem eq_of_get? {first second : Keyed α} (distinct : first.keys.Nodup)
    (sameKeys : first.keys = second.keys) (same : ∀ key, get? key first = get? key second) :
    first = second := by
  have entries : ∀ table : Keyed α, table.keys.Nodup →
      table.keys.filterMap (fun key => (get? key table).map (fun value => (key, value))) = table := by
    intro table distinctKeys
    rw [keys, List.filterMap_map]
    conv => rhs; rw [← List.map_id table]
    rw [List.filterMap_eq_map_iff_forall_eq_some]
    intro entry member
    simp [(get?_eq_some_iff distinctKeys).mpr member]
  rw [← entries first distinct, ← entries second (sameKeys ▸ distinct), sameKeys]
  simp only [same]

theorem putAll_append : ∀ (pairs others : List (String × α)) (entries : Keyed α),
    entries.putAll (pairs ++ others) = (entries.putAll pairs).putAll others
  | [], _, _ => rfl
  | (key, value) :: rest, others, entries => putAll_append rest others (entries.put key value)

/-- Putting the entries of a table is putting the pairs of which the table was made. -/
theorem putAll_ofList {entries : Keyed α} (distinct : entries.keys.Nodup)
    (pairs : List (String × α)) : entries.putAll (ofList pairs) = entries.putAll pairs := by
  apply eq_of_get? (nodup_keys_putAll distinct _)
  · rw [keys_putAll, keys_putAll, keys_ofList, NameSet.filter_eraseDups,
      NameSet.eraseDups_of_nodup (NameSet.nodup_eraseDups _)]
  · intro key
    apply Option.ext
    intro value
    have last : IsLast key value (ofList pairs) ↔ IsLast key value pairs := by
      rw [← get?_ofList_eq_some_iff, ← get?_ofList_eq_some_iff,
        ofList_of_nodup (nodup_keys_ofList pairs)]
    rw [get?_putAll_eq_some_iff, get?_putAll_eq_some_iff, last, keys_ofList, List.mem_eraseDups]

/-- Pairs make the same table when some consecutive ones are first made into a table. -/
theorem ofList_append_ofList_append (before group after : List (String × α)) :
    ofList (before ++ ofList group ++ after) = ofList (before ++ group ++ after) := by
  change putAll [] _ = putAll [] _
  rw [putAll_append, putAll_append, putAll_append, putAll_append]
  exact congrArg (putAll · after) (putAll_ofList (nodup_keys_ofList before) group)

end TypeScaffold.Keyed
