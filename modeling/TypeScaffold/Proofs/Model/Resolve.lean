import TypeScaffold.Model.Resolve

/-!
# Laws of optional types

What stands beside `undefined` in a union of two is found among any images of the members in the same
place.
-/

namespace TypeScaffold

theorem companion?_map {α β γ : Type} (test : α → Bool) (change : β → γ) (members : List α)
    (images : List β) :
    companion? test members (images.map change) = (companion? test members images).map change := by
  match members, images with
  | [], _ => rfl
  | [_], _ => rfl
  | _ :: _ :: _ :: _, _ => rfl
  | [_, _], [] => rfl
  | [_, _], [_] => rfl
  | [_, _], _ :: _ :: _ :: _ => rfl
  | [first, second], [_, _] =>
      simp only [List.map_cons, List.map_nil, companion?]
      split <;> split <;> rfl

/-- What stands beside a member that passes the test is one of the images. -/
theorem mem_of_companion? {α β : Type} {test : α → Bool} {members : List α} {images : List β}
    {image : β} (found : companion? test members images = some image) : image ∈ images := by
  unfold companion? at found
  split at found
  · rename_i first second firstImage secondImage
    split at found <;> split at found
    · cases found
    · obtain rfl := Option.some.inj found
      exact List.mem_cons_of_mem firstImage List.mem_cons_self
    · obtain rfl := Option.some.inj found
      exact List.mem_cons_self
    · cases found
  · cases found

/-- Of two members one passes the test, and the image is that of the other. -/
theorem exists_of_companion?_map {α β : Type} {test : α → Bool} {members : List α} {change : α → β}
    {image : β} (found : companion? test members (members.map change) = some image) :
    ∃ empty core, (members = [empty, core] ∨ members = [core, empty]) ∧ test empty = true ∧
      test core = false ∧ image = change core := by
  match members with
  | [] => cases found
  | [_] => cases found
  | _ :: _ :: _ :: _ => cases found
  | [first, second] =>
      rw [List.map_cons, List.map_cons, List.map_nil, companion?] at found
      split at found
      · rename_i firstPasses
        split at found
        · cases found
        · rename_i secondFails
          exact ⟨first, second, Or.inl rfl, firstPasses, eq_false_of_ne_true secondFails,
            (Option.some.inj found).symm⟩
      · rename_i firstFails
        split at found
        · rename_i secondPasses
          exact ⟨second, first, Or.inr rfl, secondPasses, eq_false_of_ne_true firstFails,
            (Option.some.inj found).symm⟩
        · cases found

/-- Where the given member does not pass the test, it is the one beside a member that passes, or there
is none such, whatever the member is. -/
theorem companion?_beside {ι α β : Type} {test : α → Bool} {member : ι → α}
    (fails : ∀ index, test (member index) = false) (change : α → β) (front behind : List α) :
    (∀ index, companion? test (front ++ member index :: behind)
        ((front ++ member index :: behind).map change) = some (change (member index))) ∨
      ∀ index, companion? test (front ++ member index :: behind)
        ((front ++ member index :: behind).map change) = none := by
  match front, behind with
  | [], [] => exact Or.inr (fun _ => rfl)
  | [], [other] =>
      cases passes : test other with
      | true => exact Or.inl (fun index => by simp [companion?, fails, passes])
      | false => exact Or.inr (fun index => by simp [companion?, fails, passes])
  | [other], [] =>
      cases passes : test other with
      | true => exact Or.inl (fun index => by simp [companion?, fails, passes])
      | false => exact Or.inr (fun index => by simp [companion?, fails, passes])
  | [], _ :: _ :: _ => exact Or.inr (fun _ => rfl)
  | [_], _ :: _ => exact Or.inr (fun _ => rfl)
  | _ :: _ :: [], _ => exact Or.inr (fun _ => rfl)
  | _ :: _ :: _ :: _, _ => exact Or.inr (fun _ => rfl)

namespace TypeNode

theorem eq_of_isPrimitive {name : String} {node : TypeNode}
    (primitive : node.isPrimitive name = true) : node = .primitive name := by
  cases node with
  | primitive other => rw [eq_of_beq primitive]
  | _ => cases primitive

theorem withoutUndefined_of_eq_some {node core : TypeNode}
    (unwrapped : node.unwrapOptional? = some core) : node.withoutUndefined = core := by
  rw [withoutUndefined, unwrapped, Option.getD_some]

theorem withoutUndefined_of_eq_none {node : TypeNode}
    (required : node.unwrapOptional? = none) : node.withoutUndefined = node := by
  rw [withoutUndefined, required, Option.getD_none]

end TypeNode

end TypeScaffold
