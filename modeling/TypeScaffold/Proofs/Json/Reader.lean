import TypeScaffold.Json.Settings
import TypeScaffold.Proofs.Json.Pretty
import TypeScaffold.Proofs.Keyed

/-!
# Reading what is written on several lines

A reader that awaits a value comes to it over the lexemes of which the value consists, whatever lists
and objects are open, as long as the value has room inside them. So the text of a value on several
lines is read back as the value.
-/

namespace TypeScaffold.Json

/-! ## Values that keep in writing -/

mutual

/-- How many lists and objects lie around the innermost item or member of a value. -/
def nesting : Json → Nat
  | .list items => nestingOfItems items
  | .object members => nestingOfMembers members
  | .null | .bool _ | .int _ | .float _ | .text _ => 0
termination_by structural json => json

def nestingOfItems : List Json → Nat
  | [] => 0
  | item :: rest => max (nesting item + 1) (nestingOfItems rest)
termination_by structural items => items

def nestingOfMembers : List (String × Json) → Nat
  | [] => 0
  | (_, value) :: rest => max (nesting value + 1) (nestingOfMembers rest)
termination_by structural members => members

end

mutual

/-- No object has two members of one name. -/
def HasDistinctNames : Json → Prop
  | .list items => HaveDistinctNames items
  | .object members => (Keyed.keys members).Nodup ∧ MembersHaveDistinctNames members
  | .null | .bool _ | .int _ | .float _ | .text _ => True
termination_by structural json => json

def HaveDistinctNames : List Json → Prop
  | [] => True
  | item :: rest => HasDistinctNames item ∧ HaveDistinctNames rest
termination_by structural items => items

def MembersHaveDistinctNames : List (String × Json) → Prop
  | [] => True
  | (_, value) :: rest => HasDistinctNames value ∧ MembersHaveDistinctNames rest
termination_by structural members => members

end

theorem haveDistinctNames_iff {items : List Json} :
    HaveDistinctNames items ↔ ∀ item ∈ items, item.HasDistinctNames := by
  induction items with
  | nil => simp [HaveDistinctNames]
  | cons item rest inductionHypothesis => simp [HaveDistinctNames, inductionHypothesis]

theorem nestingOfItems_le_iff {items : List Json} {limit : Nat} :
    nestingOfItems items ≤ limit ↔ ∀ item ∈ items, item.nesting + 1 ≤ limit := by
  induction items with
  | nil => simp [nestingOfItems]
  | cons item rest inductionHypothesis =>
      rw [nestingOfItems, Nat.max_le, inductionHypothesis, List.forall_mem_cons]

/-! ## Steps over lexemes -/

variable {dialect : Dialect}

/-- The reader comes from one state to another over lexemes of the given kinds. -/
inductive State.Advances (dialect : Dialect) : State → List Token → State → Prop where
  | nil {state : State} : Advances dialect state [] state
  | cons {state next last : State} {token : Token} {tokens : List Token}
      (shallow : state.isTooDeep dialect token = false) (steps : state.step token = .ok next)
      (advances : Advances dialect next tokens last) :
      Advances dialect state (token :: tokens) last

theorem State.Advances.append {first second third : State} {tokens others : List Token}
    (advances : first.Advances dialect tokens second)
    (advancesToo : second.Advances dialect others third) :
    first.Advances dialect (tokens ++ others) third := by
  induction advances with
  | nil => exact advancesToo
  | cons shallow steps _ inductionHypothesis =>
      exact .cons shallow steps (inductionHypothesis advancesToo)

theorem State.run_of_advances {first last : State} {tokens : List Token}
    (advances : first.Advances dialect tokens last) (stop : Nat) (rest : List Lexeme) :
    ∀ {lexed : List Lexeme}, lexed.map Lexeme.token = tokens →
      first.run dialect stop (lexed ++ rest) = last.run dialect stop rest := by
  induction advances with
  | nil =>
      intro lexed kinds
      rw [List.map_eq_nil_iff.mp kinds]
      rfl
  | cons shallow steps _ inductionHypothesis =>
      intro lexed kinds
      obtain ⟨lexeme, others, rfl, rfl, kindsOfOthers⟩ := List.map_eq_cons_iff.mp kinds
      rw [List.cons_append, run, shallow, steps]
      exact inductionHypothesis kindsOfOthers

/-! ## Awaiting a value -/

/-- The value that comes next belongs inside the frames: the reader takes any lexeme that begins one. -/
def State.Awaits (dialect : Dialect) (stack : List Frame) (state : State) : Prop :=
  ∀ token next, begin? stack token = some (.ok next) →
    state.isTooDeep dialect token = false ∧ state.step token = .ok next

/-- A value with that nesting has room inside the frames. -/
def HasRoom (dialect : Dialect) (stack : List Frame) (nesting : Nat) : Prop :=
  ∀ limit, dialect.limit? = some limit → stack.length + nesting ≤ limit

theorem HasRoom.mono {stack : List Frame} {nesting less : Nat}
    (room : HasRoom dialect stack nesting) (smaller : less ≤ nesting) :
    HasRoom dialect stack less := by
  intro limit limited
  have there := room limit limited
  omega

/-- There is room for a part inside its list or object. -/
theorem HasRoom.inside {stack : List Frame} {nesting : Nat}
    (room : HasRoom dialect stack (nesting + 1)) (frame : Frame) :
    HasRoom dialect (frame :: stack) nesting := by
  intro limit limited
  have there := room limit limited
  rw [List.length_cons]
  omega

theorem HasRoom.not_exceeds {stack : List Frame} {nesting : Nat}
    (room : HasRoom dialect stack (nesting + 1)) :
    dialect.limit?.any (fun limit => limit ≤ stack.length) = false := by
  cases limited : dialect.limit? with
  | none => rfl
  | some limit =>
      have there := room limit limited
      simp only [Option.any_some, decide_eq_false_iff_not]
      omega

namespace State

theorem awaits_start : State.start.Awaits dialect [] := by
  intro token next begins
  refine ⟨rfl, ?_⟩
  rw [step, begins]
  rfl

theorem awaits_item {first : Bool} {items : List Json} {stack : List Frame} {nesting : Nat}
    (room : first = true → HasRoom dialect stack (nesting + 1)) :
    (State.item first items stack).Awaits dialect (.list items :: stack) := by
  intro token next begins
  have opens : token ≠ .closeList := by
    rintro rfl
    cases begins
  constructor
  · cases first with
    | true =>
        rw [isTooDeep]
        · exact (room rfl).not_exceeds
        · exact opens
    | false => rfl
  · rw [step]
    · rw [begins]
      rfl
    · exact fun ends _ => opens ends

theorem awaits_member {members : List (String × Json)} {name : String} {stack : List Frame}
    {nesting : Nat} (room : members = [] → HasRoom dialect stack (nesting + 1)) :
    (State.member members name stack).Awaits dialect (.object members name :: stack) := by
  intro token next begins
  refine ⟨?_, by rw [step, begins]; rfl⟩
  cases members with
  | nil => exact (room rfl).not_exceeds
  | cons _ _ => rfl

theorem Awaits.advances {stack : List Frame} {state next : State} {token : Token}
    (awaits : state.Awaits dialect stack) (begins : begin? stack token = some (.ok next)) :
    state.Advances dialect [token] next := by
  obtain ⟨shallow, steps⟩ := awaits token next begins
  exact .cons shallow steps .nil

end State

/-! ## Reading a value -/

mutual

/-- A reader that awaits a value comes to it over its lexemes. -/
theorem advances_tokens : ∀ json : Json, json.HasDistinctNames →
    ∀ {stack : List Frame} {state : State}, HasRoom dialect stack json.nesting →
      state.Awaits dialect stack → state.Advances dialect json.tokens (.after json stack)
  | .null, _, _, _, _, awaits | .bool _, _, _, _, _, awaits | .int _, _, _, _, _, awaits
  | .float _, _, _, _, _, awaits | .text _, _, _, _, _, awaits => by
      rw [tokens]
      exact awaits.advances rfl
  | .list [], _, _, _, _, awaits => by
      rw [tokens]
      exact (awaits.advances rfl).append (.cons rfl rfl .nil)
  | .list (item :: items), distinct, stack, _, room, awaits => by
      have roomForFirst := room.mono (Nat.le_max_left _ _)
      have first := advances_tokens item distinct.1 (roomForFirst.inside (.list []))
        (State.awaits_item (fun _ : true = true => roomForFirst))
      have others : (State.after item (.list [] :: stack)).Advances dialect _ _ :=
        advances_items items distinct.2 (room.mono (Nat.le_max_right _ _))
      rw [tokens]
      exact (awaits.advances rfl).append (first.append others)
  | .object [], _, _, _, _, awaits => by
      rw [tokens]
      exact (awaits.advances rfl).append (.cons rfl rfl .nil)
  | .object ((name, value) :: members), distinct, stack, _, room, awaits => by
      have roomForFirst := room.mono (Nat.le_max_left _ _)
      have first := advances_tokens value distinct.2.1 (roomForFirst.inside (.object [] name))
        (State.awaits_member (fun _ => roomForFirst))
      have others : (State.after value (.object [] name :: stack)).Advances dialect _ _ :=
        advances_members members distinct.2.2 distinct.1 (room.mono (Nat.le_max_right _ _))
      rw [tokens]
      exact (awaits.advances rfl).append (.cons rfl rfl (.cons rfl rfl (first.append others)))

/-- Behind an item a reader comes over the further items to the whole list. -/
theorem advances_items : ∀ items : List Json, HaveDistinctNames items →
    ∀ {stack : List Frame} {read : List Json} {value : Json},
      HasRoom dialect stack (nestingOfItems items) →
      (State.after value (.list read :: stack)).Advances dialect (tokensOfItems items)
        (.after (.list ((value :: read).reverse ++ items)) stack)
  | [], _, _, _, _, _ => by
      rw [tokensOfItems, List.append_nil]
      exact .cons rfl rfl .nil
  | item :: rest, distinct, stack, read, value, room => by
      have roomForNext := room.mono (Nat.le_max_left _ _)
      have next := advances_tokens item distinct.1 (roomForNext.inside (.list (value :: read)))
        (State.awaits_item (fun _ : false = true => roomForNext))
      have others : (State.after item (.list (value :: read) :: stack)).Advances dialect _ _ :=
        advances_items rest distinct.2 (room.mono (Nat.le_max_right _ _))
      rw [List.reverse_cons, List.append_assoc] at others
      rw [tokensOfItems]
      exact .cons rfl rfl (next.append others)

/-- Behind a member a reader comes over the further members to the whole object. -/
theorem advances_members : ∀ members : List (String × Json), MembersHaveDistinctNames members →
    ∀ {stack : List Frame} {read : List (String × Json)} {name : String} {value : Json},
      (Keyed.keys (((name, value) :: read).reverse ++ members)).Nodup →
      HasRoom dialect stack (nestingOfMembers members) →
      (State.after value (.object read name :: stack)).Advances dialect (tokensOfMembers members)
        (.after (.object (((name, value) :: read).reverse ++ members)) stack)
  | [], _, stack, read, name, value, different, _ => by
      rw [List.append_nil] at different ⊢
      have closes : closeObject ((name, value) :: read) =
          .object ((name, value) :: read).reverse := by
        rw [closeObject, Keyed.ofList_of_nodup different]
      rw [tokensOfMembers, ← closes]
      exact .cons rfl rfl .nil
  | (next, other) :: rest, distinct, stack, read, name, value, different, room => by
      have roomForNext := room.mono (Nat.le_max_left _ _)
      have nextValue := advances_tokens other distinct.1
        (roomForNext.inside (.object ((name, value) :: read) next))
        (State.awaits_member (fun _ => roomForNext))
      have others :
          (State.after other (.object ((name, value) :: read) next :: stack)).Advances dialect _ _ :=
        advances_members rest distinct.2 (by simpa using different)
          (room.mono (Nat.le_max_right _ _))
      rw [List.reverse_cons, List.append_assoc] at others
      rw [tokensOfMembers]
      exact .cons rfl rfl (.cons rfl rfl (.cons rfl rfl (nextValue.append others)))

end

/-- A value without numbers is read back from its text on several lines. -/
theorem read_pretty {json : Json} (numberless : json.IsNumberless)
    (distinct : json.HasDistinctNames) (room : HasRoom dialect [] json.nesting) :
    read dialect json.pretty.toList = .ok json := by
  obtain ⟨lexed, kinds, cut⟩ := (spells_prettyAt 0 json numberless).cut 0 []
  rw [List.append_nil] at cut
  have advances := advances_tokens json distinct room State.awaits_start
  rw [read, pretty, cut, State.run_of_advances advances _ _ kinds, lexemes]
  rfl

end TypeScaffold.Json
