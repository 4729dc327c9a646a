import TypeScaffold.Proofs.Text.Lines
import TypeScaffold.Proofs.Validator.Optional
import TypeScaffold.Validator.Schema

/-!
# Which declarations have a schema

A declaration has a schema if it is exported or needed and no function. The text of a schema exports
its name, and that of an object begins with the object unless the schema is lazy.
-/

namespace TypeScaffold.Schema

theorem result_build_eq_some_iff {context : Context} {declaration : Declaration}
    {schema : Schema} :
    (build context declaration).result = some schema ↔
      (declaration.exported = true ∨ context.isNeeded declaration.name = true) ∧
        declaration.type.isFunction = false ∧
        schema = ⟨declaration.name, context.isRecursive declaration.name,
          Validator.ofNode declaration.type⟩ := by
  rw [build]
  split
  · rename_i unneeded
    simp only [Bool.and_eq_true, Bool.not_eq_true'] at unneeded
    simp [Outcome.skip, unneeded]
  · rename_i needed
    have eligible : declaration.exported = true ∨ context.isNeeded declaration.name = true := by
      cases exported : declaration.exported with
      | true => exact Or.inl rfl
      | false => exact Or.inr (by simpa [exported] using needed)
    split
    · rename_i function
      simp [Outcome.skip, function]
    · rename_i valued
      simp only [Option.some.injEq, eligible, true_and]
      constructor
      · intro equal
        exact ⟨by simpa using valued, equal.symm⟩
      · intro equal
        exact equal.2.symm

/-- An exported object has a schema with one field for each property. -/
theorem result_build_of_object {declaration : Declaration} {properties : List Property}
    {typeName : Option String} (context : Context) (exported : declaration.exported = true)
    (root : declaration.type = .object properties typeName) :
    (build context declaration).result =
      some ⟨declaration.name, context.isRecursive declaration.name,
        .object (properties.map (fun property =>
          (property.name, Validator.ofProperty property)))⟩ := by
  rw [result_build_eq_some_iff, root, Validator.ofNode, Validator.ofProperties_eq_map]
  exact ⟨Or.inl exported, rfl, rfl⟩

/-! ## The text of a schema -/

theorem statement_of_isLazy {schema : Schema} (isLazy : schema.isLazy = true) :
    ∃ rest, schema.statement =
      "export const " ++ Naming.schema schema.name ++ (": " ++ ("z.ZodType<" ++ rest)) := by
  have marked : ": z.ZodType<" = ": " ++ "z.ZodType<" := rfl
  refine ⟨schema.name ++ ("> = z.lazy(() => " ++ (schema.body.code ++ ");")), ?_⟩
  simp only [statement, isLazy, if_true, marked, String.append_assoc]

theorem statement_of_eager {schema : Schema} (eager : schema.isLazy = false) :
    schema.statement =
      "export const " ++ Naming.schema schema.name ++ (" = " ++ (schema.body.code ++ ";")) := by
  simp only [statement, eager, Bool.false_eq_true, if_false, String.append_assoc]

theorem exports_code (schema : Schema) : Text.Exports schema.code (Naming.schema schema.name) := by
  cases isLazy : schema.isLazy with
  | true =>
      obtain ⟨rest, equal⟩ := statement_of_isLazy isLazy
      rw [← String.append_assoc] at equal
      rw [code, if_pos isLazy]
      exact Or.inr ⟨"", _, by rw [equal, String.empty_append], Or.inl rfl⟩
  | false =>
      have equal := statement_of_eager isLazy
      rw [← String.append_assoc] at equal
      rw [code, if_neg (by simp [isLazy])]
      exact Or.inl (Text.hasLineStart_unlines List.mem_cons_self equal)

theorem exists_code_object (fields : List (String × Validator)) :
    ∃ rest, (Validator.object fields).code = "z.object(" ++ rest := by
  cases fields with
  | nil =>
      have text : (Validator.object []).code = r"z.object({})" := rfl
      have opened : r"z.object({})" = "z.object(" ++ r"{})" := rfl
      exact ⟨r"{})", text.trans opened⟩
  | cons field others =>
      let lines := Text.unlines (Validator.fieldCodes (field :: others))
      have text : (Validator.object (field :: others)).code =
          r"z.object({" ++ "\n" ++ lines ++ "\n" ++ r"})" :=
        rfl
      have opened : r"z.object({" = "z.object(" ++ r"{" := rfl
      refine ⟨r"{" ++ ("\n" ++ (lines ++ ("\n" ++ r"})"))), ?_⟩
      simp only [text, opened, String.append_assoc]

/-- The schema of an object is written as the object itself just when it is not lazy. -/
theorem startsWith_plain_iff {schema : Schema} {fields : List (String × Validator)}
    (object : schema.body = .object fields) :
    schema.code.startsWith ("export const " ++ Naming.schema schema.name ++ " = z.object(") = true ↔
      schema.isLazy = false := by
  cases isLazy : schema.isLazy with
  | true =>
      obtain ⟨rest, equal⟩ := statement_of_isLazy isLazy
      refine iff_of_false ?_ (by decide)
      rw [code, if_pos isLazy, equal, Text.startsWith_append_append_iff]
      exact Text.not_startsWith_append (by decide) (by decide)
  | false =>
      obtain ⟨rest, opened⟩ := exists_code_object fields
      have equal := statement_of_eager isLazy
      have marked : " = z.object(" = " = " ++ "z.object(" := rfl
      refine iff_of_true ?_ rfl
      rw [code, if_neg (by simp [isLazy]), Text.unlines,
        String.intercalate_cons_of_ne_nil (by simp), equal, object, opened, marked]
      generalize "export const " ++ Naming.schema schema.name = front
      simp only [String.append_assoc, Text.startsWith_append_append_iff]
      exact Text.startsWith_append "z.object(" _

end TypeScaffold.Schema
