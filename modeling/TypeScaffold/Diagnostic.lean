import TypeScaffold.Naming
import TypeScaffold.Validator.Basic

/-!
# Diagnostics

What a run reports beside its artifacts. Nothing that is skipped or generated in a weaker form goes
unreported.
-/

namespace TypeScaffold

/-- Where an input of a form stands. -/
inductive FormPlace where
  /-- A field of the declaration. -/
  | field (owner name : String)
  /-- The items of an array field. -/
  | items (array : String)
  /-- A property of the items of an array field. -/
  | itemProperty (array name : String)
  /-- A property of an object inside the items of an array field. -/
  | nestedProperty (array object name : String)
  deriving DecidableEq, Repr

/-- A report about a declaration or a part of it. -/
inductive Diagnostic where
  /-- A declaration that is neither exported nor needed gets no validator. -/
  | notNeeded (name : String)
  /-- A function gets no validator. -/
  | functionRoot (name : String)
  /-- A declaration that is not exported gets neither store nor form. -/
  | notExported (name : String)
  /-- A declaration that is no object gets neither store nor form. -/
  | notObject (name : String)
  /-- Some names would be defined twice in the store. -/
  | repeatedMembers (name : String) (members : List String)
  /-- Some names of the store mean something else in the form. -/
  | shadowedLocals (name : String) (members : List String)
  /-- A function gets no field in a store and no input in a form. -/
  | functionField (place : FormPlace)
  /-- An input for which there is no better widget edits raw JSON. -/
  | jsonEditor (place : FormPlace)
  /-- A validator accepts every value. -/
  | gap (reason : Gap)
  /-- Something could not be read of the source. -/
  | sourceError (message : String)
  deriving DecidableEq, Repr

/-- How a place is named. -/
def FormPlace.path : FormPlace → String
  | .field _ name => name
  | .items array => array
  | .itemProperty array name => array ++ "." ++ name
  | .nestedProperty array object name => array ++ "." ++ object ++ "." ++ name

/-- The wording of a skipped declaration or component. -/
def skipping (name reason : String) : String :=
  "Skipping " ++ name ++ ": " ++ reason

namespace Diagnostic

def message : Diagnostic → String
  | .notNeeded name => skipping name "not exported and not referenced"
  | .functionRoot name => skipping name "contains function type"
  | .notExported name => skipping name "not exported"
  | .notObject name => skipping name "not an object type"
  | .repeatedMembers name members =>
      skipping name ("generated store member(s) defined twice: " ++ ", ".intercalate members)
  | .shadowedLocals name members =>
      skipping (Naming.component name)
        ("store member(s) clash with form locals: " ++ ", ".intercalate members)
  | .functionField place =>
      skipping ("field '" ++ place.path ++ "'" ++
        (match place with
        | .field owner _ => " of " ++ owner
        | _ => "")) "function type"
  | .jsonEditor place =>
      "Field '" ++ place.path ++ "'" ++
        (match place with
        | .field owner _ => " of " ++ owner ++ ": rendered as JSON editor"
        | .items _ => ": items rendered as JSON editors"
        | _ => ": rendered as JSON editor")
  | .gap .function => "Function types cannot be converted to Zod schemas"
  | .gap (.described rawText) => "Unknown type: " ++ rawText
  | .gap (.unrecognized name) => "Unrecognized primitive type: " ++ name
  | .sourceError message => "Parse error: " ++ message

/-- The wordings of diagnostics in order. -/
def messages (diagnostics : List Diagnostic) : List String :=
  diagnostics.map message

end Diagnostic

end TypeScaffold
