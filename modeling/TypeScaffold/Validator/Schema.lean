import TypeScaffold.Context
import TypeScaffold.Validator.OfType

/-!
# Schemas

The statement that exports the validator of a declaration. A declaration that depends on itself gets
a lazy one, which may mention itself.
-/

namespace TypeScaffold

/-- The validator of a declaration under the name of the declaration. -/
structure Schema where
  name : String
  isLazy : Bool
  body : Validator

namespace Schema

def statement (schema : Schema) : String :=
  let name := Naming.schema schema.name
  if schema.isLazy then
    "export const " ++ name ++ ": z.ZodType<" ++ schema.name ++ "> = z.lazy(() => " ++
      schema.body.code ++ ");"
  else
    "export const " ++ name ++ " = " ++ schema.body.code ++ ";"

/-- The statement that exports the type that a validator accepts. -/
def typeExport (name : String) : String :=
  "export type " ++ name ++ " = z.infer<typeof " ++ Naming.schema name ++ ">;"

/-- The schema with its type. A lazy schema is given its type instead of giving it. -/
def code (schema : Schema) : String :=
  if schema.isLazy then schema.statement
  else Text.unlines [schema.statement, typeExport schema.name]

/-- The schema of a declaration. Functions have none, nor have declarations that are neither
exported nor needed. -/
def build (context : Context) (declaration : Declaration) : Outcome Schema :=
  let name := declaration.name
  if !declaration.exported && !context.isNeeded name then
    .skip [] (.notNeeded name)
  else if declaration.type.isFunction then
    .skip [] (.functionRoot name)
  else
    let body := Validator.ofNode declaration.type
    ⟨some ⟨name, context.isRecursive name, body⟩, body.gaps.map Diagnostic.gap⟩

end Schema

end TypeScaffold
