/-!
# Names of generated declarations

How the generated declarations are named after the type they are made for.
-/

namespace TypeScaffold.Naming

/-- The validator of a type. -/
def schema (name : String) : String :=
  name ++ "Schema"

/-- The hook of a type's store. -/
def store (name : String) : String :=
  "use" ++ name ++ "Store"

/-- The interface of a store's state. -/
def state (name : String) : String :=
  name ++ "State"

/-- The interface of a store's actions. -/
def actions (name : String) : String :=
  name ++ "Actions"

/-- The constant with a store's initial state. -/
def defaultState (name : String) : String :=
  "default" ++ name ++ "State"

/-- The form component of a type. -/
def component (name : String) : String :=
  name ++ "Form"

/-- The interface of a form component's properties. -/
def props (name : String) : String :=
  name ++ "FormProps"

/-- The action that changes several fields of a store at once. -/
def setAll (name : String) : String :=
  "set" ++ name

/-- The action that gives a store its initial state back. -/
def reset (name : String) : String :=
  "reset" ++ name

end TypeScaffold.Naming
