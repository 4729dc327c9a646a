/-!
# Sets of names

A set of names is kept as the list of its members in the order of their code points, each once.
-/

namespace TypeScaffold.NameSet

/-- The set of the listed names. -/
def ofList (names : List String) : List String :=
  names.eraseDups.mergeSort (fun a b => decide (a ≤ b))

@[simp]
theorem mem_ofList {name : String} {names : List String} :
    name ∈ ofList names ↔ name ∈ names := by
  rw [ofList, List.mem_mergeSort, List.mem_eraseDups]

theorem nodup_eraseDups : ∀ names : List String, names.eraseDups.Nodup
  | [] => by simp
  | name :: rest => by
      rw [List.eraseDups_cons, List.nodup_cons]
      exact ⟨by simp, nodup_eraseDups _⟩
termination_by names => names.length
decreasing_by exact Nat.lt_succ_of_le (List.length_filter_le _ _)

/-- Every member stands once. -/
theorem nodup_ofList (names : List String) : (ofList names).Nodup :=
  (List.mergeSort_perm names.eraseDups _).nodup_iff.mpr (nodup_eraseDups names)

/-- The members stand in the order of their code points. -/
theorem pairwise_ofList (names : List String) : (ofList names).Pairwise (· ≤ ·) := by
  have transitive (a b c : String) (first : decide (a ≤ b)) (second : decide (b ≤ c)) :
      decide (a ≤ c) :=
    decide_eq_true (String.le_trans (of_decide_eq_true first) (of_decide_eq_true second))
  have total (a b : String) : decide (a ≤ b) || decide (b ≤ a) := by
    simpa using String.le_total a b
  simpa [ofList] using List.pairwise_mergeSort transitive total names.eraseDups

/-- The names that are listed more than once, in the order in which they first come. -/
def repeated (names : List String) : List String :=
  names.eraseDups.filter (fun name => 1 < names.count name)

theorem repeated_eq_nil_iff {names : List String} : repeated names = [] ↔ names.Nodup := by
  rw [repeated, List.filter_eq_nil_iff, List.nodup_iff_count]
  constructor
  · intro once name
    by_cases there : name ∈ names
    · simpa using once name (List.mem_eraseDups.mpr there)
    · simp [List.count_eq_zero_of_not_mem there]
  · intro once name _
    simpa using once name

end TypeScaffold.NameSet
