import Mathlib.Data.List.Basic
import TypeScaffold.Proofs.Json.Quoted

/-!
# Lexemes one after the other

Where a text is cut into lexemes does not depend on what comes behind it, as long as its last lexeme
cannot go on. So the lexemes of texts put one behind the other are those of each of them.
-/

namespace TypeScaffold.Json

/-- The characters are cut into lexemes of the given kinds wherever they stand, and cutting goes on
behind them. -/
structure Spells (dialect : Dialect) (chars : List Char) (tokens : List Token) : Prop where
  cut : ∀ start rest, ∃ lexed : List Lexeme, lexed.map Lexeme.token = tokens ∧
    lexemes dialect start (chars ++ rest) =
      lexed ++ lexemes dialect (start + chars.length) rest

variable {dialect : Dialect}

theorem scanToken_quote {rest content : List Char} {taken : Nat}
    (read : scanText dialect 1 none rest = .ok (content, taken)) :
    scanToken dialect '"' rest = (.text (String.ofList content), taken - 1) := by
  simp [scanToken, read]

namespace Spells

theorem nil : Spells dialect [] [] :=
  ⟨fun _ _ => ⟨[], rfl, rfl⟩⟩

theorem append {first second : List Char} {firstTokens secondTokens : List Token}
    (spells : Spells dialect first firstTokens) (spellsToo : Spells dialect second secondTokens) :
    Spells dialect (first ++ second) (firstTokens ++ secondTokens) := by
  constructor
  intro start rest
  obtain ⟨front, rfl, cut⟩ := spells.cut start (second ++ rest)
  obtain ⟨back, rfl, cutToo⟩ := spellsToo.cut (start + first.length) rest
  refine ⟨front ++ back, List.map_append, ?_⟩
  rw [List.append_assoc, cut, cutToo, List.append_assoc, List.length_append, Nat.add_assoc]

theorem space {c : Char} (blank : isSpace c = true) : Spells dialect [c] [] := by
  constructor
  intro start rest
  refine ⟨[], rfl, ?_⟩
  rw [List.singleton_append, lexemes, if_pos blank]
  rfl

theorem spaces : ∀ {chars : List Char}, (∀ c ∈ chars, isSpace c = true) → Spells dialect chars []
  | [], _ => nil
  | c :: _, blank =>
      append (space (blank c List.mem_cons_self))
        (spaces (fun other there => blank other (List.mem_cons_of_mem c there)))

/-- A lexeme that is not broken ends where it ends, whatever comes behind it. -/
theorem token {c : Char} {chars : List Char} {token : Token} (dark : isSpace c = false)
    (scanned : ∀ rest, scanToken dialect c (chars ++ rest) = (token, chars.length))
    (whole : token.isBroken = false) : Spells dialect (c :: chars) [token] := by
  constructor
  intro start rest
  refine ⟨[⟨token, start⟩], rfl, ?_⟩
  rw [List.cons_append, lexemes, if_neg (by simp [dark]), scanned]
  simp only [whole, Bool.false_eq_true, if_false, List.drop_left, List.length_cons,
    List.singleton_append]
  rw [Nat.add_right_comm, Nat.add_assoc]

/-! ## Signs, words and quoted texts -/

theorem openList : Spells dialect ['['] [.openList] :=
  token rfl (fun _ => rfl) rfl

theorem closeList : Spells dialect [']'] [.closeList] :=
  token rfl (fun _ => rfl) rfl

theorem openObject : Spells dialect ['{'] [.openObject] :=
  token rfl (fun _ => rfl) rfl

theorem closeObject : Spells dialect ['}'] [.closeObject] :=
  token rfl (fun _ => rfl) rfl

theorem comma : Spells dialect [','] [.comma] :=
  token rfl (fun _ => rfl) rfl

theorem colon : Spells dialect [':'] [.colon] :=
  token rfl (fun _ => rfl) rfl

theorem wordNull : Spells dialect "null".toList [.scalar .null] :=
  token rfl (fun _ => rfl) rfl

theorem wordTrue : Spells dialect "true".toList [.scalar (.bool true)] :=
  token rfl (fun _ => rfl) rfl

theorem wordFalse : Spells dialect "false".toList [.scalar (.bool false)] :=
  token rfl (fun _ => rfl) rfl

theorem doubleQuoted (text : String) :
    Spells dialect (Text.doubleQuoted text).toList [.text text] := by
  have taken : 1 + (text.toList.flatMap Text.escapeChar).length + 1 - 1 =
      (text.toList.flatMap Text.escapeChar ++ ['"']).length := by
    rw [List.length_append, List.length_singleton]
    omega
  rw [Text.toList_doubleQuoted, Text.doubleQuotedChars]
  refine token rfl ?_ rfl
  intro rest
  rw [List.append_assoc, List.singleton_append,
    scanToken_quote (scanText_quoted dialect text.toList 1 rest), String.ofList_toList, taken]

end Spells

end TypeScaffold.Json
