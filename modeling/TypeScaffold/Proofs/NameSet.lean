import Mathlib.Data.List.Basic
import TypeScaffold.NameSet

/-!
# Laws of sets of names

A set of names is listed in one way only, whatever the order and the number of times in which its
members were given. The repeated names of a list are those that it has more than once; they stand in
the order in which each of them comes first.
-/

namespace TypeScaffold.NameSet

/-! ## Listing a set -/

/-- The one listing of a set in order and without repetition. -/
theorem ofList_eq_of_pairwise {names members : List String} (distinct : members.Nodup)
    (inOrder : members.Pairwise (· ≤ ·)) (same : ∀ name, name ∈ names ↔ name ∈ members) :
    ofList names = members := by
  have permutation : (ofList names).Perm members := by
    apply (List.perm_ext_iff_of_nodup (nodup_ofList names) distinct).mpr
    intro name
    rw [mem_ofList, same]
  apply permutation.eq_of_pairwise _ (pairwise_ofList names) inOrder
  intro first second _ _ before after
  exact String.le_antisymm before after

theorem ofList_eq_of_mem_iff {names others : List String}
    (same : ∀ name, name ∈ names ↔ name ∈ others) : ofList names = ofList others := by
  apply ofList_eq_of_pairwise (nodup_ofList others) (pairwise_ofList others)
  intro name
  rw [mem_ofList, same]

/-- Sets with the same members are equal. -/
theorem eq_of_mem_iff {names others : List String}
    (same : ∀ name, name ∈ ofList names ↔ name ∈ ofList others) : ofList names = ofList others := by
  apply ofList_eq_of_mem_iff
  intro name
  rw [← mem_ofList, same, mem_ofList]

@[simp]
theorem ofList_ofList (names : List String) : ofList (ofList names) = ofList names :=
  ofList_eq_of_mem_iff (fun _ => mem_ofList)

/-! ## Names that come again -/

/-- The listed names are those that come more than once, each listed once, in the order in which they
first come. -/
structure ListsRepeated (names listed : List String) : Prop where
  mem_iff : ∀ name, name ∈ listed ↔ 1 < names.count name
  inOrder : listed.Pairwise (fun first second => names.idxOf first < names.idxOf second)

theorem mem_repeated_iff {name : String} {names : List String} :
    name ∈ repeated names ↔ 1 < names.count name := by
  rw [repeated, List.mem_filter, List.mem_eraseDups, decide_eq_true_iff]
  constructor
  · intro listed
    exact listed.2
  · intro several
    have there : 0 < names.count name := Nat.lt_of_succ_lt several
    exact ⟨List.count_pos_iff.mp there, several⟩

/-! ## The order of first occurrence -/

/-- Leaving names out does not change which of two others comes first. -/
private theorem idxOf_lt_of_filter {keep : String → Bool} {first second : String}
    (keptFirst : keep first = true) (keptSecond : keep second = true) :
    ∀ {names : List String},
      (names.filter keep).idxOf first < (names.filter keep).idxOf second →
        names.idxOf first < names.idxOf second
  | [], earlier => earlier
  | name :: rest, earlier => by
      by_cases kept : keep name = true
      · rw [List.filter_cons_of_pos kept] at earlier
        by_cases isSecond : name = second
        · subst isSecond
          simp at earlier
        by_cases isFirst : name = first
        · subst isFirst
          simp [isSecond]
        · have later : rest.idxOf first < rest.idxOf second := by
            apply idxOf_lt_of_filter keptFirst keptSecond
            simpa [List.idxOf_cons, isFirst, isSecond] using earlier
          simpa [List.idxOf_cons, isFirst, isSecond] using later
      · rw [List.filter_cons_of_neg kept] at earlier
        have isFirst : name ≠ first := fun same => kept (same ▸ keptFirst)
        have isSecond : name ≠ second := fun same => kept (same ▸ keptSecond)
        have later := idxOf_lt_of_filter keptFirst keptSecond earlier
        simpa [List.idxOf_cons, isFirst, isSecond] using later

theorem pairwise_eraseDups : ∀ names : List String,
    names.eraseDups.Pairwise (fun first second => names.idxOf first < names.idxOf second)
  | [] => by simp
  | name :: rest => by
      have dropped : ¬ (!(name == name)) = true := by simp
      rw [List.eraseDups_cons, List.pairwise_cons]
      constructor
      · intro other member
        have different : name ≠ other := by
          rintro rfl
          simp at member
        simp [different]
      · apply (pairwise_eraseDups (rest.filter (fun other => !(other == name)))).imp_of_mem
        intro first second firstMember secondMember earlier
        rw [List.mem_eraseDups, List.mem_filter] at firstMember secondMember
        -- The erased name itself is left out, so the filtered list is that of the whole.
        rw [← List.filter_cons_of_neg (p := fun other => !(other == name)) dropped] at earlier
        exact idxOf_lt_of_filter firstMember.2 secondMember.2 earlier
termination_by names => names.length
decreasing_by exact Nat.lt_succ_of_le (List.length_filter_le _ _)

theorem eraseDups_of_nodup : ∀ {names : List String}, names.Nodup → names.eraseDups = names
  | [], _ => rfl
  | name :: rest, distinct => by
      obtain ⟨fresh, distinctRest⟩ := List.nodup_cons.mp distinct
      have others : rest.filter (fun other => !(other == name)) = rest := by
        rw [List.filter_eq_self]
        intro other member
        have different : other ≠ name := fun same => fresh (same ▸ member)
        simpa using different
      rw [List.eraseDups_cons, others, eraseDups_of_nodup distinctRest]

/-- The first occurrences of those that are kept are the kept ones of the first occurrences. -/
theorem filter_eraseDups (keep : String → Bool) :
    ∀ names : List String, names.eraseDups.filter keep = (names.filter keep).eraseDups
  | [] => rfl
  | name :: rest => by
      rw [List.eraseDups_cons]
      by_cases kept : keep name = true
      · rw [List.filter_cons_of_pos kept, List.filter_cons_of_pos kept, List.eraseDups_cons,
          filter_eraseDups keep (rest.filter _), List.filter_filter, List.filter_filter]
        simp only [Bool.and_comm]
      · have others : (rest.filter (fun other => !(other == name))).filter keep =
            rest.filter keep := by
          rw [List.filter_filter]
          apply List.filter_congr
          intro other _
          by_cases same : other = name
          · subst same
            simpa using kept
          · simp [same]
        rw [List.filter_cons_of_neg kept, List.filter_cons_of_neg kept,
          filter_eraseDups keep (rest.filter _), others]
termination_by names => names.length
decreasing_by all_goals exact Nat.lt_succ_of_le (List.length_filter_le _ _)

theorem listsRepeated (names : List String) : ListsRepeated names (repeated names) where
  mem_iff _ := mem_repeated_iff
  inOrder := (pairwise_eraseDups names).sublist List.filter_sublist

end TypeScaffold.NameSet
