import TypeScaffold.Store.Basic
import TypeScaffold.Store.Shell

/-!
# The text of a store
-/

namespace TypeScaffold

/-- How a store is kept. Without a storage key, or with an empty one, the key is made from the name
of the declaration. -/
structure StoreOptions where
  persist : Bool
  storageKey : Option String
  deriving DecidableEq, Repr

/-- A store is persisted under its own key unless something else is asked for. -/
def StoreOptions.standard : StoreOptions :=
  ⟨true, none⟩

instance : Inhabited StoreOptions :=
  ⟨.standard⟩

/-- The storage key that a declaration has by itself: its name in lower case with an ending. -/
def ownStorageKey (name : String) : String :=
  Text.lower name ++ "-storage"

/-- The storage key of a declaration's store. -/
def StoreOptions.keyFor (options : StoreOptions) (name : String) : String :=
  match options.storageKey with
  | none | some "" => ownStorageKey name
  | some key => key

namespace Store

/-- The lines of an implementation, with a comma at the end of the last. -/
def methodLines (method : Method) : List String :=
  let lines := (method.member ++ ": " ++ method.head) :: method.tail
  lines.dropLast ++ (lines.getLast?.map (· ++ ",")).toList

/-- The lines of the function that makes the store. -/
def bodyLines (store : Store) : List String :=
  r"(set) => ({" ::
    (("..." ++ Naming.defaultState store.name ++ ",") ::
      store.methods.flatMap methodLines).map ("  " ++ ·) ++ [r"})"]

/-- The function that makes the store; its first line stands where it is placed, and the others
begin with the margin. -/
def body (store : Store) (margin : String) : String :=
  ("\n" ++ margin).intercalate store.bodyLines

/-- A part of the state. -/
def slotLine (slot : Slot) : String :=
  "  " ++ slot.name ++ (if slot.optional then "?" else "") ++ ": " ++ slot.type.code

def signatureLine (signature : Signature) : String :=
  "  " ++ signature.member ++ ": " ++ signature.type

def defaultLine (entry : String × Initial) : String :=
  "  " ++ entry.1 ++ ": " ++ entry.2.code ++ ","

def shell (options : StoreOptions) (store : Store) : StoreShell where
  stateName := Naming.state store.name
  stateFields := Text.unlines (store.slots.map slotLine)
  actionsName := Naming.actions store.name
  actionSignatures := Text.unlines (store.signatures.map signatureLine)
  defaultName := Naming.defaultState store.name
  defaultFields := Text.unlines (store.defaults.map defaultLine)
  storeName := Naming.store store.name
  storeBody := store.body (if options.persist then "    " else "  ")
  storageKey :=
    if options.persist then some (Text.singleQuoted (options.keyFor store.name)) else none

def code (options : StoreOptions) (store : Store) : String :=
  (store.shell options).code

end Store

end TypeScaffold
