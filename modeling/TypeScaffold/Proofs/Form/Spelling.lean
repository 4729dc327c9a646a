import TypeScaffold.Form.Basic
import TypeScaffold.Proofs.Store.Spelling

/-!
# Forms do not depend on how properties are written

Cards open declared objects and read their properties by the resolution, as the fields of the form are
read. So a form is the same if all properties of all declared objects are written anew so that each is
read as before.
-/

namespace TypeScaffold

/-- What is made of each property by its resolution is the same for lists with the same resolutions. -/
private theorem map_eq_of_resolve_eq {α : Type} {part other : Property → α}
    (alike : ∀ first second : Property, first.resolve = second.resolve → part first = other second) :
    ∀ {properties others : List Property},
      properties.map PropertyOf.resolve = others.map PropertyOf.resolve →
        properties.map part = others.map other
  | [], [], _ => rfl
  | [], _ :: _, same => by cases same
  | _ :: _, [], same => by cases same
  | first :: rest, second :: remaining, same => by
      obtain ⟨head, tail⟩ := List.cons.inj same
      rw [List.map_cons, List.map_cons, alike first second head, map_eq_of_resolve_eq alike tail]

section Alike

variable {change : Property → Property} (keeps : ∀ property, (change property).ReadsAs property)

include keeps

theorem Context.openProperties?_respell (context : Context) (node : TypeNode) :
    ((context.respell change).openProperties? node).map (List.map PropertyOf.resolve) =
      (context.openProperties? node).map (List.map PropertyOf.resolve) := by
  have resolved : PropertyOf.resolve ∘ change = PropertyOf.resolve :=
    funext (fun property => (keeps property).resolve_eq)
  cases node with
  | reference name =>
      have recursive : (context.respell change).isRecursive name = context.isRecursive name := rfl
      have found : (context.respell change).arena.get? name =
          (context.arena.get? name).map (Declaration.respell change) :=
        get?_respellArena change context.arena name
      rw [openProperties?, openProperties?, recursive, found]
      cases context.isRecursive name with
      | true => rfl
      | false =>
          cases context.arena.get? name with
          | none => rfl
          | some target =>
              simp only [Bool.false_eq_true, if_false, Option.map_some, Option.bind_some,
                Declaration.respell, TypeNode.properties?_respell, Option.map_map]
              rw [List.map_comp_map, resolved]
  | _ => rfl

/-- Both contexts open a type, or neither does; the properties found resolve alike. -/
theorem Context.openProperties?_respell_cases (context : Context) (node : TypeNode) :
    ((context.respell change).openProperties? node = none ∧ context.openProperties? node = none) ∨
      ∃ properties others, (context.respell change).openProperties? node = some properties ∧
        context.openProperties? node = some others ∧
        properties.map PropertyOf.resolve = others.map PropertyOf.resolve := by
  have opened := context.openProperties?_respell keeps node
  cases closed : context.openProperties? node with
  | none =>
      rw [closed, Option.map_none, Option.map_eq_none_iff] at opened
      exact Or.inl ⟨opened, rfl⟩
  | some others =>
      rw [closed, Option.map_some, Option.map_eq_some_iff] at opened
      obtain ⟨properties, found, same⟩ := opened
      exact Or.inr ⟨properties, others, found, rfl, same⟩

theorem CardPart.ofProperty_respell (context : Context) (array : String)
    {property other : Property} (same : property.resolve = other.resolve) :
    ofProperty (context.respell change) array property = ofProperty context array other := by
  have nested : ∀ (object : String) (first second : Property), first.resolve = second.resolve →
      NestedPart.ofProperty array object first = NestedPart.ofProperty array object second := by
    intro object first second equal
    rw [NestedPart.ofProperty, NestedPart.ofProperty, equal]
  rw [ofProperty, ofProperty, same]
  -- An object that is written in place keeps its properties; those of a declared one are new.
  rcases context.openProperties?_respell_cases keeps other.resolve.node with
    ⟨closed, closedToo⟩ | ⟨properties, others, opened, openedToo, equal⟩
  · simp only [closed, closedToo]
  · have parts := map_eq_of_resolve_eq (nested other.resolve.name) equal
    simp only [opened, openedToo]
    cases Control.ofNode? other.resolve.node <;> simp only [parts]

theorem ItemView.ofElement_respell (context : Context) (array : String)
    (element : Option TypeNode) :
    ofElement (context.respell change) array element = ofElement context array element := by
  cases element with
  | none => rfl
  | some node =>
      have parts : ∀ first second : Property, first.resolve = second.resolve →
          CardPart.ofProperty (context.respell change) array first =
            CardPart.ofProperty context array second :=
        fun _ _ same => CardPart.ofProperty_respell keeps context array same
      rw [ofElement, ofElement, Option.bind_some, Option.bind_some]
      rcases context.openProperties?_respell_cases keeps node with
        ⟨closed, closedToo⟩ | ⟨properties, others, opened, openedToo, equal⟩
      · rw [closed, closedToo]
      · simp only [opened, openedToo, map_eq_of_resolve_eq parts equal]

theorem FormField.ofProperty_respell (context : Context) (field : ResolvedProperty) :
    ofProperty (context.respell change) field = ofProperty context field := by
  have value : ∀ element, Initial.ofField (context.respell change).arena false element =
      Initial.ofField context.arena false element :=
    (storesAlike_respell keeps context.arena).ofField_eq false
  rw [ofProperty, ofProperty]
  cases field.node <;> simp only [value, ItemView.ofElement_respell keeps]

namespace Form

theorem ofFields_respell (context : Context) (name : String) (fields : List ResolvedProperty) :
    ofFields (context.respell change) name fields = ofFields context name fields := by
  have parts : FormField.ofProperty (context.respell change) = FormField.ofProperty context :=
    funext (FormField.ofProperty_respell keeps context)
  rw [ofFields, parts]
  rfl

/-- A declaration has the same form, and the same is reported about it. -/
theorem build_respell (context : Context) (declaration : Declaration) :
    build (context.respell change) (declaration.respell change) = build context declaration := by
  obtain ⟨name, type, dependencies, exported⟩ := declaration
  cases type with
  | object properties typeName =>
      simp only [build, Declaration.respell, TypeNode.respell,
        resolved_fieldSources_respell keeps, functionReports_respell keeps,
        ofFields_respell keeps]
  | _ => rfl

end Form

end Alike

end TypeScaffold
