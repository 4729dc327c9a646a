import TypeScaffold.Text.Lines

/-!
# The text around a store

The module of a store, given the texts of its parts. A persisted store is wrapped and kept under a
storage key.
-/

namespace TypeScaffold

/-- The texts that fill the module of a store; without a storage key the store is not persisted. -/
structure StoreShell where
  stateName : String
  stateFields : String
  actionsName : String
  actionSignatures : String
  defaultName : String
  defaultFields : String
  storeName : String
  storeBody : String
  storageKey : Option String

def StoreShell.code (shell : StoreShell) : String :=
  Text.unlines
    ([r"export interface " ++ shell.stateName ++ r" {",
      shell.stateFields,
      r"}",
      "",
      r"export interface " ++ shell.actionsName ++ r" {",
      shell.actionSignatures,
      r"}",
      "",
      r"export const " ++ shell.defaultName ++ ": " ++ shell.stateName ++ r" = {",
      shell.defaultFields,
      r"}",
      "",
      "export const " ++ shell.storeName ++ " = create<" ++ shell.stateName ++ " & " ++
        shell.actionsName ++ ">()("] ++
    (match shell.storageKey with
    | some key =>
        ["  persist(",
          "    " ++ shell.storeBody ++ ",",
          r"    {",
          "      name: " ++ key ++ ",",
          r"    }",
          "  )"]
    | none => ["  " ++ shell.storeBody]) ++
    [")"])

end TypeScaffold
