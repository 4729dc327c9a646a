/-!
# Entries by key

A list of entries whose order is that in which the keys first came: putting a key again changes its
value and leaves its place. `ofList` puts pairs one after the other, so of several pairs with one
key the last gives the value and the first the place.
-/

namespace TypeScaffold

universe u

/-- Entries under texts, in order. -/
abbrev Keyed (α : Type u) := List (String × α)

namespace Keyed

variable {α : Type u}

/-- The value under a key. -/
def get? (key : String) : Keyed α → Option α
  | [] => none
  | (name, value) :: rest => if name = key then some value else get? key rest

/-- Set the value under a key, in its place or at the end. -/
def put (key : String) (value : α) : Keyed α → Keyed α
  | [] => [(key, value)]
  | (name, old) :: rest =>
      if name = key then (name, value) :: rest else (name, old) :: put key value rest

/-- The entries that result from putting the pairs in turn after those already there. -/
def putAll (entries : Keyed α) : List (String × α) → Keyed α
  | [] => entries
  | (key, value) :: rest => putAll (entries.put key value) rest

/-- The entries that result from putting the pairs in turn. -/
def ofList (pairs : List (String × α)) : Keyed α :=
  putAll [] pairs

/-- The keys in order. -/
def keys (entries : Keyed α) : List String :=
  entries.map Prod.fst

/-! ## Putting and getting -/

@[simp]
theorem get?_put_self (key : String) (value : α) (entries : Keyed α) :
    get? key (entries.put key value) = some value := by
  induction entries with
  | nil => simp [put, get?]
  | cons entry rest inductionHypothesis =>
      by_cases same : entry.1 = key <;> simp [put, get?, same, inductionHypothesis]

theorem get?_put_of_ne
    {key other : String} (value : α) (entries : Keyed α) (different : key ≠ other) :
    get? other (entries.put key value) = get? other entries := by
  induction entries with
  | nil => simp [put, get?, different]
  | cons entry rest inductionHypothesis =>
      by_cases same : entry.1 = key
      · subst same
        simp [put, get?, different]
      · simp [put, get?, same, inductionHypothesis]

theorem get?_eq_none_iff {key : String} {entries : Keyed α} :
    get? key entries = none ↔ key ∉ entries.keys := by
  induction entries with
  | nil => simp [get?, keys]
  | cons entry rest inductionHypothesis =>
      simp only [keys] at inductionHypothesis
      by_cases same : entry.1 = key
      · simp [get?, keys, same]
      · simp [get?, keys, same, Ne.symm same, inductionHypothesis]

/-- A key that is new comes last; one that is there keeps its place. -/
theorem keys_put (key : String) (value : α) (entries : Keyed α) :
    (entries.put key value).keys =
      if key ∈ entries.keys then entries.keys else entries.keys ++ [key] := by
  induction entries with
  | nil => simp [put, keys]
  | cons entry rest inductionHypothesis =>
      simp only [keys] at inductionHypothesis
      by_cases same : entry.1 = key
      · simp [put, keys, same]
      · by_cases there : key ∈ rest.map Prod.fst <;>
          simp_all [put, keys, Ne.symm same]

theorem nodup_keys_put
    (key : String) (value : α) {entries : Keyed α} (distinct : entries.keys.Nodup) :
    (entries.put key value).keys.Nodup := by
  rw [keys_put]
  split
  · exact distinct
  · rename_i fresh
    rw [List.nodup_append]
    refine ⟨distinct, by simp, ?_⟩
    intro name there other last same
    rw [List.mem_singleton] at last
    exact fresh (last ▸ same ▸ there)

theorem nodup_keys_putAll {entries : Keyed α} (distinct : entries.keys.Nodup) :
    ∀ pairs : List (String × α), (entries.putAll pairs).keys.Nodup
  | [] => distinct
  | (key, value) :: rest => by
      rw [putAll]
      exact nodup_keys_putAll (nodup_keys_put key value distinct) rest

/-- Every key stands once. -/
theorem nodup_keys_ofList (pairs : List (String × α)) : (ofList pairs).keys.Nodup := by
  rw [ofList]
  exact nodup_keys_putAll (by simp [keys]) pairs

end Keyed

end TypeScaffold
