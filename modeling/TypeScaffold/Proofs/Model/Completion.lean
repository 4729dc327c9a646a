import TypeScaffold.Proofs.Validation.Reading

/-!
# Completions of a value

A value that describes a model may leave members out. Its completion has every value of it at the
same path, and beside them only the defaults of members that were left out. What a boolean member
stands for is written out, and a set is listed without repetition; nothing else is changed.
-/

namespace TypeScaffold

open Validation

namespace Json

/-- A step into a value: to a member of an object or to an item of a list. -/
inductive Step where
  | key (name : String)
  | position (index : Nat)
  deriving DecidableEq

/-- The value to which one step leads. -/
def step? : Step → Json → Option Json
  | .key name, json => json.get? name
  | .position index, .list items => items[index]?
  | .position _, _ => none

/-- The value to which a path leads. -/
def at? : List Step → Json → Option Json
  | [], json => some json
  | step :: path, json => (json.step? step).bind (at? path)

/-- Whether the value is neither a list nor an object. -/
def isLeaf : Json → Bool
  | .list _ | .object _ => false
  | _ => true

theorem step?_eq_none_of_isLeaf {json : Json} (leaf : json.isLeaf = true) (step : Step) :
    json.step? step = none := by
  cases step <;> cases json <;> first | rfl | cases leaf

theorem at?_cons_eq_some_iff {json value : Json} {step : Step} {path : List Step} :
    json.at? (step :: path) = some value ↔
      ∃ part, json.step? step = some part ∧ part.at? path = some value := by
  rw [at?, Option.bind_eq_some_iff]

theorem at?_singleton {json part : Json} {step : Step} (stepped : json.step? step = some part) :
    json.at? [step] = some part :=
  at?_cons_eq_some_iff.mpr ⟨part, stepped, rfl⟩

/-- Where no step leads on, no path does. -/
theorem eq_nil_of_at? {json value : Json} {path : List Step}
    (ends : ∀ step, json.step? step = none) (found : json.at? path = some value) :
    path = [] ∧ value = json := by
  cases path with
  | nil =>
      cases found
      exact ⟨rfl, rfl⟩
  | cons step rest =>
      rw [at?, ends step] at found
      cases found

end Json

namespace Model

open Json

/-- The names of the members that are booleans. -/
def flagNames : List String :=
  ["is_optional", "is_exported"]

/-- The name of the members that are sets. -/
def setName : String :=
  "dependencies"

/-- What stands under a name if nothing is given there. -/
def default? : String → Option Json
  | "declarations" | "errors" | "dependencies" | "elements" | "members" | "properties" | "values" =>
      some (.list [])
  | "element" | "name" | "key" | "value" | "raw_text" => some .null
  | "is_optional" => some (.bool false)
  | "is_exported" => some (.bool true)
  | _ => none

/-- The step leads neither to a boolean member nor to a set. -/
def IsPlain (step : Step) : Prop :=
  ∀ name, step = .key name → name ∉ flagNames ∧ name ≠ setName

/-- The path leads to an item of a set or beyond. -/
def InsideSet (path : List Step) : Prop :=
  .key setName ∈ path.dropLast

/-- Both values are the same leaf, or lists of one length, or objects. -/
inductive Alike : Json → Json → Prop where
  | leaf {value : Json} (leaf : value.isLeaf = true) : Alike value value
  | list {items others : List Json} (length : items.length = others.length) :
      Alike (.list items) (.list others)
  | object (members others : List (String × Json)) : Alike (.object members) (.object others)

/-- A value and what its completion has in its place, where `last` is the last step to it. -/
inductive Stands : Option Step → Json → Json → Prop where
  | plain {last : Option Step} {value shown : Json} (plain : ∀ step ∈ last, IsPlain step)
      (alike : Alike value shown) : Stands last value shown
  | flag {name : String} {written : Json} {value : Bool} (isFlag : name ∈ flagNames)
      (writes : WritesBoolean written value) : Stands (some (.key name)) written (.bool value)
  | set {names members : List String} (distinct : members.Nodup)
      (same : ∀ name, name ∈ members ↔ name ∈ names) :
      Stands (some (.key setName)) (.list (names.map .text)) (.list (members.map .text))

/-- The completion `full` has all that `source` has at the same paths, and beside it only defaults. -/
structure Completes (source full : Json) : Prop where
  kept : ∀ path value, source.at? path = some value →
    InsideSet path ∨ ∃ shown, full.at? path = some shown ∧ Stands path.getLast? value shown
  added : ∀ path value, full.at? path = some value → source.at? path = none →
    InsideSet path ∨ ∃ name, path.getLast? = some (.key name) ∧ default? name = some value

/-! ## Completions part by part -/

/-- What one step may lead to in a value and in its completion. -/
inductive PartCompletes : Step → Option Json → Option Json → Prop where
  | absent (step : Step) : PartCompletes step none none
  | default {name : String} {value : Json} (isDefault : default? name = some value) :
      PartCompletes (.key name) none (some value)
  | plain {step : Step} {value shown : Json} (plain : IsPlain step)
      (completes : Completes value shown) : PartCompletes step (some value) (some shown)
  | flag {name : String} {written : Json} {value : Bool} (isFlag : name ∈ flagNames)
      (writes : WritesBoolean written value) :
      PartCompletes (.key name) (some written) (some (.bool value))
  | set {names members : List String} (distinct : members.Nodup)
      (same : ∀ name, name ∈ members ↔ name ∈ names) :
      PartCompletes (.key setName) (some (.list (names.map .text)))
        (some (.list (members.map .text)))

theorem step?_eq_none_of_writesBoolean {written : Json} {value : Bool}
    (writes : WritesBoolean written value) (step : Step) : written.step? step = none := by
  apply step?_eq_none_of_isLeaf
  cases writes <;> rfl

theorem step?_eq_none_of_default? {name : String} {value : Json}
    (isDefault : default? name = some value) (step : Step) : value.step? step = none := by
  unfold default? at isDefault
  split at isDefault <;> cases isDefault <;> cases step <;> rfl

theorem insideSet_cons {step second : Step} {path : List Step} (inside : InsideSet (second :: path)) :
    InsideSet (step :: second :: path) := by
  rw [InsideSet, List.dropLast_cons_cons]
  exact List.mem_cons_of_mem step inside

theorem insideSet_of_step (second : Step) (path : List Step) :
    InsideSet (.key setName :: second :: path) := by
  rw [InsideSet, List.dropLast_cons_cons]
  exact List.mem_cons_self

theorem Completes.alike {source full : Json} (completes : Completes source full) :
    Alike source full := by
  rcases completes.kept [] source rfl with inside | ⟨shown, found, stands⟩
  · cases inside
  · cases found
    cases stands with
    | plain _ alike => exact alike

section Parts

variable {source full : Json} {step : Step} {part : Option Json} {path : List Step} {value : Json}

theorem PartCompletes.kept (completes : PartCompletes step (source.step? step) (full.step? step))
    (found : source.at? (step :: path) = some value) :
    InsideSet (step :: path) ∨
      ∃ shown, full.at? (step :: path) = some shown ∧
        Stands (step :: path).getLast? value shown := by
  obtain ⟨first, stepped, further⟩ := at?_cons_eq_some_iff.mp found
  rw [stepped] at completes
  generalize steppedFull : full.step? step = other at completes
  cases completes with
  | plain plain completes =>
      cases path with
      | nil =>
          cases further
          exact Or.inr ⟨_, at?_singleton steppedFull, .plain (by simpa using plain) completes.alike⟩
      | cons second rest =>
          rcases completes.kept _ _ further with inside | ⟨shown, there, stands⟩
          · exact Or.inl (insideSet_cons inside)
          · refine Or.inr ⟨shown, at?_cons_eq_some_iff.mpr ⟨_, steppedFull, there⟩, ?_⟩
            rwa [List.getLast?_cons_cons]
  | flag isFlag writes =>
      obtain ⟨rfl, rfl⟩ := eq_nil_of_at? (step?_eq_none_of_writesBoolean writes) further
      exact Or.inr ⟨_, at?_singleton steppedFull, .flag isFlag writes⟩
  | set distinct same =>
      cases path with
      | nil =>
          cases further
          exact Or.inr ⟨_, at?_singleton steppedFull, .set distinct same⟩
      | cons second rest => exact Or.inl (insideSet_of_step second rest)

theorem PartCompletes.added (completes : PartCompletes step (source.step? step) (full.step? step))
    (found : full.at? (step :: path) = some value) (missing : source.at? (step :: path) = none) :
    InsideSet (step :: path) ∨
      ∃ name, (step :: path).getLast? = some (.key name) ∧ default? name = some value := by
  obtain ⟨first, stepped, further⟩ := at?_cons_eq_some_iff.mp found
  rw [stepped] at completes
  -- What a single step leads to in the source is not missing.
  have beyond : (source.step? step).isSome → path ≠ [] := by
    rintro there rfl
    rw [at?, Option.bind_eq_none_iff] at missing
    obtain ⟨part, steppedSource⟩ := Option.isSome_iff_exists.mp there
    cases missing part steppedSource
  generalize steppedSource : source.step? step = other at completes
  rw [steppedSource] at beyond
  cases completes with
  | default isDefault =>
      obtain ⟨rfl, rfl⟩ := eq_nil_of_at? (step?_eq_none_of_default? isDefault) further
      exact Or.inr ⟨_, rfl, isDefault⟩
  | plain plain completes =>
      cases path with
      | nil => exact absurd rfl (beyond rfl)
      | cons second rest =>
          rw [at?, steppedSource, Option.bind_some] at missing
          rcases completes.added _ _ further missing with inside | ⟨name, last, isDefault⟩
          · exact Or.inl (insideSet_cons inside)
          · refine Or.inr ⟨name, ?_, isDefault⟩
            rwa [List.getLast?_cons_cons]
  | flag isFlag writes =>
      have ends := eq_nil_of_at? (step?_eq_none_of_isLeaf rfl) further
      exact absurd ends.1 (beyond rfl)
  | set distinct same =>
      cases path with
      | nil => exact absurd rfl (beyond rfl)
      | cons second rest => exact Or.inl (insideSet_of_step second rest)

/-- A completion is one if each step leads to a completion. -/
theorem completes_of_parts (alike : Alike source full)
    (parts : ∀ step, PartCompletes step (source.step? step) (full.step? step)) :
    Completes source full where
  kept := by
    intro path value found
    cases path with
    | nil =>
        cases found
        exact Or.inr ⟨full, rfl, .plain (by simp) alike⟩
    | cons step rest => exact (parts step).kept found
  added := by
    intro path value found missing
    cases path with
    | nil => cases missing
    | cons step rest => exact (parts step).added found missing

end Parts

theorem completes_of_isLeaf {value : Json} (leaf : value.isLeaf = true) : Completes value value := by
  apply completes_of_parts (.leaf leaf)
  intro step
  rw [step?_eq_none_of_isLeaf leaf]
  exact .absent step

theorem isPlain_position (index : Nat) : IsPlain (.position index) := by
  intro name same
  cases same

theorem isPlain_key {name : String} (plain : name ∉ flagNames ∧ name ≠ setName) :
    IsPlain (.key name) := by
  intro other same
  cases same
  exact plain

theorem completes_list {items others : List Json} (each : List.Forall₂ Completes items others) :
    Completes (.list items) (.list others) := by
  apply completes_of_parts (.list each.length_eq)
  intro step
  cases step with
  | key name => exact .absent (.key name)
  | position index =>
      change PartCompletes _ items[index]? others[index]?
      have same := each.length_eq
      by_cases inside : index < items.length
      · have insideToo : index < others.length := same ▸ inside
        rw [List.getElem?_eq_getElem inside, List.getElem?_eq_getElem insideToo]
        exact .plain (isPlain_position index) (each.get inside insideToo)
      · rw [List.getElem?_eq_none (by omega), List.getElem?_eq_none (by omega)]
        exact .absent (.position index)

theorem completes_object {members others : List (String × Json)}
    (fields : ∀ name, PartCompletes (.key name) (Keyed.get? name members) (Keyed.get? name others)) :
    Completes (.object members) (.object others) := by
  apply completes_of_parts (.object members others)
  intro step
  cases step with
  | key name => exact fields name
  | position index => exact .absent (.position index)

end Model

end TypeScaffold
