import TypeScaffold.Json.Value

/-!
# Faults of structured input

A value that does not have the shape asked for is refused with one fault: where in the value it lies
and what is wrong there. Only the first fault is kept, in the order in which the parts are read.
-/

namespace TypeScaffold.Validation

/-- What is wrong at one place. -/
inductive Problem where
  | missing
  | unknownKey
  | notText
  | notList
  | notSet
  /-- A type description that is no object. -/
  | notNode
  /-- A type description without its kind. -/
  | noKind
  /-- A type description whose kind, written here as messages name it, does not exist. -/
  | unknownKind (kind : String)
  /-- A record, named here, that is no object. -/
  | notRecord (record : String)
  | notBoolean
  | unclearBoolean
  | notInteger
  | notTarget
  deriving DecidableEq, Repr

/-- The kinds of a type description as messages list them. -/
def listedKinds : String :=
  ", ".intercalate
    (["primitive", "literal", "array", "tuple", "union", "intersection", "object", "reference",
      "enum", "record", "function", "unknown"].map (fun kind => "'" ++ kind ++ "'"))

/-- The wording of a problem in a value. -/
def Problem.message : Problem → String
  | .missing => "Field required"
  | .unknownKey => "Extra inputs are not permitted"
  | .notText => "Input should be a valid string"
  | .notList => "Input should be a valid list"
  | .notSet => "Input should be a valid frozenset"
  | .notNode => "Input should be a valid dictionary or object to extract fields from"
  | .noKind => "Unable to extract tag using discriminator 'kind'"
  | .unknownKind kind =>
      "Input tag '" ++ kind ++ "' found using 'kind' does not match any of the expected tags: " ++
        listedKinds
  | .notRecord record => "Input should be a valid dictionary or instance of " ++ record
  | .notBoolean => "Input should be a valid boolean"
  | .unclearBoolean => "Input should be a valid boolean, unable to interpret input"
  | .notInteger => "Input should be a valid integer"
  | .notTarget => "Input should be 'schema', 'store' or 'form'"

/-- The wording of a problem in a text of JSON, which calls lists arrays. -/
def Problem.textMessage : Problem → String
  | .notList => "Input should be a valid array"
  | .notRecord _ => "Input should be an object"
  | problem => problem.message

/-- A problem and the way to it: keys, positions in lists, and the kind of each type description on
the way. -/
structure Fault where
  path : List String
  problem : Problem
  deriving DecidableEq, Repr

/-- The fault seen from one step further out. -/
def Fault.under (step : String) (fault : Fault) : Fault :=
  ⟨step :: fault.path, fault.problem⟩

/-- The path with the given wording of the problem. -/
def Fault.located (fault : Fault) (wording : String) : String :=
  ".".intercalate fault.path ++ ": " ++ wording

/-- The wording of a fault in a value. -/
def Fault.message (fault : Fault) : String :=
  fault.located fault.problem.message

/-- The wording of a fault in a text of JSON. -/
def Fault.textMessage (fault : Fault) : String :=
  fault.located fault.problem.textMessage

/-- A value of the shape asked for, or the first fault. -/
abbrev Checked (α : Type) := Except Fault α

/-- The refusal of the value at hand. -/
def refuse {α : Type} (problem : Problem) : Checked α :=
  .error ⟨[], problem⟩

/-- A result for the part that one step leads to. -/
def Checked.under {α : Type} (step : String) (result : Checked α) : Checked α :=
  result.mapError (Fault.under step)

end TypeScaffold.Validation
