import TypeScaffold.Model.Basic
import TypeScaffold.Naming
import TypeScaffold.Text.Lines

/-!
# Validators

Validator expressions and their source text. Where a described type cannot be
checked, the expression keeps the reason, so that it can be reported.
-/

namespace TypeScaffold

/-- The validators of built-in types. -/
inductive Builtin where
  | string
  | number
  | boolean
  | date
  | bigint
  | any
  | unknown
  | never
  | void
  | null
  | undefined
  deriving DecidableEq, Repr

def Builtin.name : Builtin → String
  | .string => "string"
  | .number => "number"
  | .boolean => "boolean"
  | .date => "date"
  | .bigint => "bigint"
  | .any => "any"
  | .unknown => "unknown"
  | .never => "never"
  | .void => "void"
  | .null => "null"
  | .undefined => "undefined"

def Builtin.ofPrimitive? (name : String) : Option Builtin :=
  match name with
  | "string" => some .string
  | "number" => some .number
  | "boolean" => some .boolean
  | "Date" | "date" => some .date
  | "bigint" => some .bigint
  | "any" => some .any
  | "unknown" => some .unknown
  | "never" => some .never
  | "void" => some .void
  | "null" => some .null
  | "undefined" => some .undefined
  | _ => none

/-- Why a type that is described gets a validator that accepts every value. -/
inductive Gap where
  /-- The type is a function. -/
  | function
  /-- The type is known by its text only. -/
  | described (rawText : String)
  /-- The primitive of this name is not known. -/
  | unrecognized (primitive : String)
  deriving DecidableEq, Repr

/-- A validator expression. -/
inductive Validator where
  | builtin (kind : Builtin)
  | literal (value : Scalar)
  /-- One of the listed texts. -/
  | choice (options : List String)
  | array (element : Validator)
  | tuple (elements : List Validator)
  | union (members : List Validator)
  /-- Objects told apart by a literal under the key. -/
  | discriminated (key : String) (members : List Validator)
  /-- Both validators accept. -/
  | both (left right : Validator)
  | object (fields : List (String × Validator))
  | record (key value : Validator)
  | optional (inner : Validator)
  | nullable (inner : Validator)
  /-- The validator of a declared name. -/
  | reference (name : String)
  | gap (reason : Gap)
  /-- Every value, where nothing is said about the type. -/
  | unspecified

instance : Inhabited Validator :=
  ⟨.unspecified⟩

namespace Validator

/-- The ending of a validator that accepts a missing value too. -/
def optionalSuffix : String :=
  ".optional()"

/-- The source text of a gap. -/
def gapCode : Gap → String
  | .function => "z.any() /* function type */"
  | .described rawText => "z.any() /* " ++ Text.commentSafe rawText ++ " */"
  | .unrecognized _ => "z.unknown()"

/-- A field of an object on lines of its own, one step further in than the object. -/
def fieldCode (name code : String) : String :=
  Text.hang ("  " ++ name ++ ": " ++ code ++ ",")

mutual

/-- The source text of a validator. -/
def code : Validator → String
  | .builtin kind => "z." ++ kind.name ++ "()"
  | .literal value => "z.literal(" ++ value.code ++ ")"
  | .choice options => "z.enum([" ++ ", ".intercalate (options.map Text.doubleQuoted) ++ "])"
  | .array element => "z.array(" ++ code element ++ ")"
  | .tuple elements => "z.tuple([" ++ ", ".intercalate (codes elements) ++ "])"
  | .union members => "z.union([" ++ ", ".intercalate (codes members) ++ "])"
  | .discriminated key members =>
      "z.discriminatedUnion(" ++ Text.doubleQuoted key ++ ", [" ++
        ", ".intercalate (codes members) ++ "])"
  | .both left right => code left ++ ".and(" ++ code right ++ ")"
  | .object [] => r"z.object({})"
  | .object (field :: fields) =>
      r"z.object({" ++ "\n" ++ Text.unlines (fieldCodes (field :: fields)) ++ "\n" ++ r"})"
  | .record key value => "z.record(" ++ code key ++ ", " ++ code value ++ ")"
  | .optional inner => code inner ++ optionalSuffix
  | .nullable inner => code inner ++ ".nullable()"
  | .reference name => Naming.schema name
  | .gap reason => gapCode reason
  | .unspecified => "z.unknown()"
termination_by structural validator => validator

/-- The source texts of validators. -/
def codes : List Validator → List String
  | [] => []
  | validator :: rest => code validator :: codes rest
termination_by structural validators => validators

/-- The source texts of the fields of an object. -/
def fieldCodes : List (String × Validator) → List String
  | [] => []
  | (name, validator) :: rest => fieldCode name (code validator) :: fieldCodes rest
termination_by structural fields => fields

end

mutual

/-- The reasons for which parts of a validator accept every value, from left to right. -/
def gaps : Validator → List Gap
  | .builtin _ | .literal _ | .choice _ | .reference _ | .unspecified => []
  | .array inner | .optional inner | .nullable inner => gaps inner
  | .tuple members | .union members | .discriminated _ members => gapsOfAll members
  | .both left right | .record left right => gaps left ++ gaps right
  | .object fields => gapsOfFields fields
  | .gap reason => [reason]
termination_by structural validator => validator

/-- The reasons in validators in order. -/
def gapsOfAll : List Validator → List Gap
  | [] => []
  | validator :: rest => gaps validator ++ gapsOfAll rest
termination_by structural validators => validators

/-- The reasons in fields in order. -/
def gapsOfFields : List (String × Validator) → List Gap
  | [] => []
  | (_, validator) :: rest => gaps validator ++ gapsOfFields rest
termination_by structural fields => fields

end

/-- The source text that accepts a missing value too; a text that ends so already stays as it is. -/
def optionalCode (code : String) : String :=
  if code.endsWith optionalSuffix then code else code ++ optionalSuffix

/-- The validator that accepts a missing value too; one that does already stays as it is. -/
def asOptional : Validator → Validator
  | .optional inner => .optional inner
  | validator => .optional validator

end Validator

end TypeScaffold
