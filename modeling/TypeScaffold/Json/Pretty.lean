import TypeScaffold.Json.Value

/-!
# JSON on several lines

The text of a value with every item and member on a line of its own, two blanks further in than the
value it belongs to. An empty list or object stays on one line.
-/

namespace TypeScaffold.Json

/-- The line feed and the margin in front of a line. -/
def freshLine (depth : Nat) : String :=
  "\n" ++ String.ofList (List.replicate (2 * depth) ' ')

mutual

/-- The text of a value whose first line is already indented. -/
def prettyAt (depth : Nat) : Json → String
  | .null => "null"
  | .bool true => "true"
  | .bool false => "false"
  | .int value => toString value
  | .float value => value.text
  | .text value => Text.doubleQuoted value
  | .list [] => "[]"
  | .list (item :: items) =>
      "[" ++ ",".intercalate (prettyItems (depth + 1) (item :: items)) ++ freshLine depth ++ "]"
  | .object [] => r"{}"
  | .object (member :: members) =>
      r"{" ++ ",".intercalate (prettyMembers (depth + 1) (member :: members)) ++
        freshLine depth ++ r"}"
termination_by structural json => json

/-- The texts of items, each on a fresh line. -/
def prettyItems (depth : Nat) : List Json → List String
  | [] => []
  | item :: rest => (freshLine depth ++ prettyAt depth item) :: prettyItems depth rest
termination_by structural items => items

/-- The texts of members, each on a fresh line. -/
def prettyMembers (depth : Nat) : List (String × Json) → List String
  | [] => []
  | (name, value) :: rest =>
      (freshLine depth ++ Text.doubleQuoted name ++ ": " ++ prettyAt depth value) ::
        prettyMembers depth rest
termination_by structural members => members

end

/-- The text of a value on several lines. -/
def pretty (json : Json) : String :=
  json.prettyAt 0

end TypeScaffold.Json
