import Mathlib.Data.List.Forall2
import TypeScaffold.Validation.Reading

/-!
# Laws of reading

What a reader has accepted tells what it was given: the value under a name, the items of a list in
order, and that a closed record has no other names. So a reader accepts what was written for it.
-/

namespace TypeScaffold.Validation

open Decimal

variable {α β : Type}

/-! ## Results -/

@[simp]
theorem Checked.under_eq_ok_iff {step : String} {result : Checked α} {value : α} :
    result.under step = .ok value ↔ result = .ok value := by
  cases result <;> simp [Checked.under, Except.mapError]

@[simp]
theorem refuse_ne_ok {problem : Problem} {value : α} : refuse problem ≠ .ok value := by
  simp [refuse]

theorem Checked.bind_eq_ok_iff {first : Checked α} {next : α → Checked β} {value : β} :
    (first >>= next) = .ok value ↔ ∃ middle, first = .ok middle ∧ next middle = .ok value := by
  cases first <;> simp [bind, Except.bind]

theorem Checked.map_eq_ok_iff {result : Checked α} {change : α → β} {value : β} :
    result.map change = .ok value ↔ ∃ middle, result = .ok middle ∧ change middle = value := by
  cases result <;> simp [Except.map]

/-! ## Members of a record -/

section Members

variable {name : String} {members : List (String × Json)} {read : Json → Checked α} {result : α}

theorem readRecord_eq_ok_iff {record : String} {json : Json} :
    readRecord record json = .ok members ↔ json = .object members := by
  cases json <;> simp [readRecord]

theorem required_eq_ok_iff :
    required name members read = .ok result ↔
      ∃ value, Keyed.get? name members = some value ∧ read value = .ok result := by
  rw [required, Checked.under_eq_ok_iff]
  cases Keyed.get? name members <;> simp

theorem withDefault_eq_ok_iff {default : α} :
    withDefault default name members read = .ok result ↔
      (Keyed.get? name members = none ∧ default = result) ∨
        ∃ value, Keyed.get? name members = some value ∧ read value = .ok result := by
  rw [withDefault]
  cases Keyed.get? name members <;> simp

/-- A closed record has no value under any other name. -/
theorem noOthers_eq_ok_iff {names : List String} :
    noOthers names members = .ok () ↔ ∀ name, name ∉ names → Keyed.get? name members = none := by
  have absent : (∀ name, name ∉ names → Keyed.get? name members = none) ↔
      ∀ member ∈ members, member.1 ∈ names := by
    constructor
    · intro closed member there
      by_contra other
      have missing := Keyed.get?_eq_none_iff.mp (closed member.1 other)
      exact missing (List.mem_map_of_mem there)
    · intro listed name other
      apply Keyed.get?_eq_none_iff.mpr
      intro there
      obtain ⟨member, memberThere, rfl⟩ := List.mem_map.mp there
      exact other (listed member memberThere)
  rw [absent, noOthers]
  split
  · rename_i name value found
    have there := List.mem_of_find?_eq_some found
    have other := List.find?_some found
    simp only [Checked.under_eq_ok_iff, refuse_ne_ok, false_iff]
    intro listed
    simp [listed (name, value) there] at other
  · rename_i found
    simpa using found

end Members

/-! ## Simple values -/

theorem readText_eq_ok_iff {json : Json} {text : String} :
    readText json = .ok text ↔ json = .text text := by
  cases json <;> simp [readText]

theorem readOptionalText_eq_ok_iff {json : Json} {text : Option String} :
    readOptionalText json = .ok text ↔ json = Json.ofText? text := by
  cases json <;> cases text <;>
    simp [readOptionalText, Json.ofText?, Checked.map_eq_ok_iff, readText_eq_ok_iff]

/-- The value stands for a boolean. -/
inductive WritesBoolean : Json → Bool → Prop where
  | bool (value : Bool) : WritesBoolean (.bool value) value
  | zero : WritesBoolean (.int 0) false
  | one : WritesBoolean (.int 1) true
  | zeroPoint {number : Double} (whole : number.toInt? = some 0) : WritesBoolean (.float number) false
  | onePoint {number : Double} (whole : number.toInt? = some 1) : WritesBoolean (.float number) true
  | falseWord {text : String} (word : lowerLatin text ∈ falseWords) : WritesBoolean (.text text) false
  | trueWord {text : String} (word : lowerLatin text ∈ trueWords) : WritesBoolean (.text text) true

theorem wholeBoolean_eq_ok_iff {number : Int} {value : Bool} :
    wholeBoolean number = .ok value ↔
      (number = 0 ∧ value = false) ∨ (number = 1 ∧ value = true) := by
  rw [wholeBoolean]
  by_cases zero : number = 0
  · simp [zero, eq_comm]
  · by_cases one : number = 1
    · simp [one, eq_comm]
    · simp only [zero, one, if_false]
      split <;> simp

theorem readBoolean_text (text : String) (value : Bool) :
    readBoolean (.text text) = .ok value ↔
      (lowerLatin text ∈ falseWords ∧ value = false) ∨
        (lowerLatin text ∈ trueWords ∧ value = true) := by
  have apart : ∀ word ∈ falseWords, word ∉ trueWords := by decide
  simp only [readBoolean, List.contains_iff_mem]
  by_cases isFalse : lowerLatin text ∈ falseWords
  · simp [isFalse, apart _ isFalse, eq_comm]
  · by_cases isTrue : lowerLatin text ∈ trueWords
    · simp [isFalse, isTrue, eq_comm]
    · simp [isFalse, isTrue]

theorem readBoolean_eq_ok_iff {json : Json} {value : Bool} :
    readBoolean json = .ok value ↔ WritesBoolean json value := by
  constructor
  · intro accepted
    cases json with
    | bool written =>
        cases accepted
        exact .bool value
    | int number =>
        rcases wholeBoolean_eq_ok_iff.mp accepted with ⟨rfl, rfl⟩ | ⟨rfl, rfl⟩
        · exact .zero
        · exact .one
    | float number =>
        cases whole : number.toInt? with
        | none => simp [readBoolean, whole] at accepted
        | some exact =>
            by_cases least : exact = leastWord
            · simp [readBoolean, whole, least] at accepted
            · simp only [readBoolean, whole, least, if_false, wholeBoolean_eq_ok_iff] at accepted
              rcases accepted with ⟨rfl, rfl⟩ | ⟨rfl, rfl⟩
              · exact .zeroPoint whole
              · exact .onePoint whole
    | text text =>
        rcases (readBoolean_text text value).mp accepted with ⟨word, rfl⟩ | ⟨word, rfl⟩
        · exact .falseWord word
        · exact .trueWord word
    | _ => simp [readBoolean] at accepted
  · intro written
    cases written with
    | bool => rfl
    | zero => rfl
    | one => rfl
    | zeroPoint whole => simp [readBoolean, whole, leastWord, wholeBoolean]
    | onePoint whole => simp [readBoolean, whole, leastWord, wholeBoolean]
    | falseWord word => exact (readBoolean_text _ _).mpr (Or.inl ⟨word, rfl⟩)
    | trueWord word => exact (readBoolean_text _ _).mpr (Or.inr ⟨word, rfl⟩)

/-! ## Lists -/

theorem readItems_eq_ok_iff {read : Json → Checked α} {index : Nat} {items : List Json}
    {results : List α} :
    readItems read index items = .ok results ↔
      List.Forall₂ (fun item result => read item = .ok result) items results := by
  induction items generalizing index results with
  | nil => simp [readItems, eq_comm]
  | cons item rest inductionHypothesis =>
      simp only [readItems, Checked.bind_eq_ok_iff, Checked.under_eq_ok_iff, pure, Except.pure,
        Except.ok.injEq, inductionHypothesis, List.forall₂_cons_left_iff]
      constructor
      · rintro ⟨first, readFirst, others, readOthers, rfl⟩
        exact ⟨first, others, readFirst, readOthers, rfl⟩
      · rintro ⟨first, others, readFirst, readOthers, rfl⟩
        exact ⟨first, readFirst, others, readOthers, rfl⟩

theorem readList_eq_ok_iff {problem : Problem} {read : Json → Checked α} {json : Json}
    {results : List α} :
    readList problem read json = .ok results ↔
      ∃ items, json = .list items ∧
        List.Forall₂ (fun item result => read item = .ok result) items results := by
  cases json <;> simp [readList, readItems_eq_ok_iff]

theorem exists_item_of_mem {read : Json → Checked α} {items : List Json} {results : List α}
    (each : List.Forall₂ (fun item result => read item = .ok result) items results) {result : α}
    (member : result ∈ results) : ∃ item ∈ items, read item = .ok result := by
  induction each with
  | nil => cases member
  | cons reads _ inductionHypothesis =>
      rcases List.mem_cons.mp member with rfl | later
      · exact ⟨_, List.mem_cons_self, reads⟩
      · obtain ⟨item, there, readItem⟩ := inductionHypothesis later
        exact ⟨item, List.mem_cons_of_mem _ there, readItem⟩

/-! ## Reading what was written -/

section Written

variable {α : Type} {name : String} {members : List (String × Json)} {read : Json → Checked α}
  {value : Json} {result : α}

theorem noOthers_of_keys {names : List String} (keys : Keyed.keys members = names) :
    noOthers names members = .ok () := by
  apply noOthers_eq_ok_iff.mpr
  intro name other
  exact Keyed.get?_eq_none_iff.mpr (keys ▸ other)

theorem required_written (found : Keyed.get? name members = some value)
    (reads : read value = .ok result) : required name members read = .ok result :=
  required_eq_ok_iff.mpr ⟨value, found, reads⟩

theorem withDefault_written {default : α} (found : Keyed.get? name members = some value)
    (reads : read value = .ok result) : withDefault default name members read = .ok result :=
  withDefault_eq_ok_iff.mpr (Or.inr ⟨value, found, reads⟩)

theorem withDefault_writtenText {default text : Option String}
    (found : Keyed.get? name members = some (Json.ofText? text)) :
    withDefault default name members readOptionalText = .ok text :=
  withDefault_written found (readOptionalText_eq_ok_iff.mpr rfl)

theorem withDefault_writtenList {problem : Problem} {default results : List α} {items : List Json}
    (found : Keyed.get? name members = some (.list items))
    (each : List.Forall₂ (fun item result => read item = .ok result) items results) :
    withDefault default name members (readList problem read) = .ok results :=
  withDefault_written found (readList_eq_ok_iff.mpr ⟨items, rfl, each⟩)

theorem forall₂_map_written {write : α → Json} (reads : ∀ value, read (write value) = .ok value)
    (values : List α) :
    List.Forall₂ (fun item result => read item = .ok result) (values.map write) values := by
  rw [List.forall₂_map_left_iff, List.forall₂_same]
  intro value _
  exact reads value

end Written

end TypeScaffold.Validation
