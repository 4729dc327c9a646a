import TypeScaffold.Json.Lexeme

/-!
# Reading JSON

A reader takes one lexeme after the other. Its state says what may come next and which lists and
objects are still open, innermost first. Every fault names what was expected, so that each kind of
text can word its faults in its own way. In settings, lists and objects lie in each other only up to
a limit.
-/

namespace TypeScaffold.Json

/-- An open list or object around the value being read; its parts are in reverse order. -/
inductive Frame where
  | list (items : List Json)
  | object (members : List (String × Json)) (key : String)

/-- What has been read so far. -/
inductive State where
  /-- Nothing yet. -/
  | start
  /-- A list is open; the next item comes, or the end if there is none yet. -/
  | item (first : Bool) (items : List Json) (stack : List Frame)
  /-- An object is open; the next key comes, or the end if there is none yet. -/
  | key (first : Bool) (members : List (String × Json)) (stack : List Frame)
  /-- The colon behind a key comes. -/
  | colon (members : List (String × Json)) (key : String) (stack : List Frame)
  /-- The value under a key comes. -/
  | member (members : List (String × Json)) (key : String) (stack : List Frame)
  /-- A value is complete. -/
  | after (value : Json) (stack : List Frame)

/-- What a reader needed where it stopped. -/
inductive Expected where
  | value
  | item (first : Bool)
  | key (first : Bool)
  | colon
  | listSeparator
  | objectSeparator
  | ending
  deriving DecidableEq, Repr

/-- What stood there instead. -/
inductive Found where
  | ending
  | closeList
  | closeObject
  | other
  deriving DecidableEq, Repr

/-- Why a text cannot be read. -/
inductive Cause where
  | unexpected (expected : Expected) (found : Found)
  | lexical (fault : LexicalFault)
  /-- The value lies in more lists and objects than are allowed. -/
  | tooDeep
  deriving DecidableEq, Repr

/-- A fault, with the number of characters before the lexeme at which reading stopped. -/
structure ReadFault where
  cause : Cause
  start : Nat
  deriving DecidableEq, Repr

/-- What a state needs next. -/
def State.expected : State → Expected
  | .start => .value
  | .item first _ _ => .item first
  | .key first _ _ => .key first
  | .colon _ _ _ => .colon
  | .member _ _ _ => .value
  | .after _ [] => .ending
  | .after _ (.list _ :: _) => .listSeparator
  | .after _ (.object _ _ :: _) => .objectSeparator

/-- How a fault names a lexeme. -/
def Token.found : Token → Found
  | .closeList => .closeList
  | .closeObject => .closeObject
  | _ => .other

/-- The object with the members given in reverse order; of a repeated name the last value holds. -/
def closeObject (members : List (String × Json)) : Json :=
  .object (Keyed.ofList members.reverse)

/-- The state after a lexeme that begins a value inside the given frames; `none` if it begins
none. -/
def State.begin? (stack : List Frame) : Token → Option (Except Cause State)
  | .text value => some (.ok (.after (.text value) stack))
  | .scalar value => some (.ok (.after value stack))
  | .openList => some (.ok (.item true [] stack))
  | .openObject => some (.ok (.key true [] stack))
  | .brokenText fault => some (.error (.lexical fault))
  | .brokenScalar fault => some (.error (.lexical fault))
  | _ => none

/-- How many lists and objects may lie around the innermost one. -/
def Dialect.limit? : Dialect → Option Nat
  | .document => none
  | .settings => some 200

/-- Whether the innermost list or object lies in too many others to hold the value that the lexeme
begins. It is enough to ask before its first value. -/
def State.isTooDeep (dialect : Dialect) (state : State) (token : Token) : Bool :=
  let exceeds (stack : List Frame) : Bool := dialect.limit?.any (fun limit => limit ≤ stack.length)
  match state, token with
  | .item true _ _, .closeList => false
  | .item true _ stack, _ => exceeds stack
  | .member [] _ stack, _ => exceeds stack
  | _, _ => false

/-- The state after one more lexeme. -/
def State.step (state : State) (token : Token) : Except Cause State :=
  let unexpected : Except Cause State := .error (.unexpected state.expected token.found)
  match state, token with
  | .start, _ => (begin? [] token).getD unexpected
  | .item true _ stack, .closeList => .ok (.after (.list []) stack)
  | .item _ items stack, _ => (begin? (.list items :: stack) token).getD unexpected
  | .key true _ stack, .closeObject => .ok (.after (.object []) stack)
  | .key _ members stack, .text name => .ok (.colon members name stack)
  | .key _ _ _, .brokenText fault => .error (.lexical fault)
  | .colon members name stack, .colon => .ok (.member members name stack)
  | .member members name stack, _ => (begin? (.object members name :: stack) token).getD unexpected
  | .after value (.list items :: stack), .comma => .ok (.item false (value :: items) stack)
  | .after value (.list items :: stack), .closeList =>
      .ok (.after (.list (value :: items).reverse) stack)
  | .after value (.object members name :: stack), .comma =>
      .ok (.key false ((name, value) :: members) stack)
  | .after value (.object members name :: stack), .closeObject =>
      .ok (.after (closeObject ((name, value) :: members)) stack)
  | _, _ => unexpected

/-- The value that the lexemes complete; `stop` is the length of the text. -/
def State.run (dialect : Dialect) (stop : Nat) (state : State) :
    List Lexeme → Except ReadFault Json
  | [] =>
      match state with
      | .after value [] => .ok value
      | _ => .error ⟨.unexpected state.expected .ending, stop⟩
  | lexeme :: rest =>
      if state.isTooDeep dialect lexeme.token then
        .error ⟨.tooDeep, lexeme.start⟩
      else
        match state.step lexeme.token with
        | .ok next => next.run dialect stop rest
        | .error cause => .error ⟨cause, lexeme.start⟩

/-- The value that a text writes. -/
def read (dialect : Dialect) (chars : List Char) : Except ReadFault Json :=
  State.start.run dialect chars.length (lexemes dialect 0 chars)

end TypeScaffold.Json
