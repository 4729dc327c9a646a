import TypeScaffold.Validation.Fault

/-!
# Reading simple values

Readers for texts, booleans and lists, and for the members of a record. A record is read member by
member in the order of its definition; where it is closed, the first member that it does not define
is refused after all others have been read.
-/

namespace TypeScaffold.Validation

open Decimal

/-- The members of a record of the given name. -/
def readRecord (record : String) : Json → Checked (List (String × Json))
  | .object members => .ok members
  | _ => refuse (.notRecord record)

/-- The value of a member that must be there. -/
def required {α : Type} (name : String) (members : List (String × Json))
    (read : Json → Checked α) : Checked α :=
  Checked.under name (match Keyed.get? name members with
    | some value => read value
    | none => refuse .missing)

/-- The value of a member that may be missing. -/
def withDefault {α : Type} (default : α) (name : String) (members : List (String × Json))
    (read : Json → Checked α) : Checked α :=
  match Keyed.get? name members with
  | some value => (read value).under name
  | none => .ok default

/-- Refuse the first member whose name is not among those given. -/
def noOthers (names : List String) (members : List (String × Json)) : Checked Unit :=
  match members.find? (fun (name, _) => !names.contains name) with
  | some (name, _) => (refuse .unknownKey).under name
  | none => .ok ()

def readText : Json → Checked String
  | .text value => .ok value
  | _ => refuse .notText

def readOptionalText : Json → Checked (Option String)
  | .null => .ok none
  | value => (readText value).map some

/-- The items of a list from a position on. -/
def readItems {α : Type} (read : Json → Checked α) (index : Nat) :
    List Json → Checked (List α)
  | [] => .ok []
  | item :: rest => do
      let first ← (read item).under (toString index)
      let others ← readItems read (index + 1) rest
      return first :: others

/-- A list of values of one shape; `problem` refuses what is no list. -/
def readList {α : Type} (problem : Problem) (read : Json → Checked α) :
    Json → Checked (List α)
  | .list items => readItems read 0 items
  | _ => refuse problem

/-- The texts that mean false. -/
def falseWords : List String :=
  ["0", "off", "f", "false", "n", "no"]

/-- The texts that mean true. -/
def trueWords : List String :=
  ["1", "on", "t", "true", "y", "yes"]

/-- A letter of the Latin alphabet in lower case; other characters stay as they are. -/
def lowerLatin (text : String) : String :=
  String.ofList (text.toList.map Char.toLower)

/-- The least whole number of 64 bits. -/
def leastWord : Int :=
  -9223372036854775808

/-- The boolean that a whole number stands for. Numbers beyond 64 bits are not even tried. -/
def wholeBoolean (value : Int) : Checked Bool :=
  if value = 0 then .ok false
  else if value = 1 then .ok true
  else if leastWord ≤ value ∧ value < -leastWord then refuse .unclearBoolean
  else refuse .notBoolean

/-- A boolean, also as the numbers 0 and 1 or as one of the words for it in any letter case. -/
def readBoolean : Json → Checked Bool
  | .bool value => .ok value
  | .int value => wholeBoolean value
  | .float value =>
      match value.toInt? with
      | some whole => if whole = leastWord then refuse .notBoolean else wholeBoolean whole
      | none => refuse .notBoolean
  | .text value =>
      let word := lowerLatin value
      if falseWords.contains word then .ok false
      else if trueWords.contains word then .ok true
      else refuse .unclearBoolean
  | _ => refuse .notBoolean

end TypeScaffold.Validation
