import TypeScaffold.Proofs.Validator.RawTexts
import TypeScaffold.Proofs.Validator.Schema

/-!
# Raw texts in comments

A type that is known by its text only is shown in a comment. However deep the type stands in others, the
text decides nothing but the content of the comment, in a validator as in a schema, and the comment is
closed by its own end only.
-/

namespace TypeScaffold

open Text (HasPlace Contains commentContent readComment?)

namespace Validator

/-- The comment of a raw text behind its validator, moved to the right the given number of times. -/
def commentCode (depth : Nat) (raw : RawText) : String :=
  "z.any() /*" ++ commentContent depth raw.1 ++ "*/"

theorem iterate_hang_code_ofRaw (depth : Nat) (raw : RawText) :
    Text.hang^[depth] (ofRaw raw).code = commentCode depth raw := by
  have opening : "z.any() /* " = "z.any() " ++ "/* " := rfl
  have opened : "z.any() /*" = "z.any() " ++ "/*" := rfl
  have text : (ofRaw raw).code = "z.any() /* " ++ Text.commentSafe raw.1 ++ " */" := rfl
  have parted : (ofRaw raw).code = "z.any() " ++ ("/* " ++ Text.commentSafe raw.1 ++ " */") := by
    simp only [text, opening, String.append_assoc]
  have fixed : Text.hang "z.any() " = "z.any() " := by decide
  rw [parted, Text.iterate_hang_append, Text.iterate_hang_comment, Function.iterate_fixed fixed,
    commentCode, opened]
  simp only [String.append_assoc]

/-- The comment of a raw text has a place in the text of the validator, and the raw text decides
nothing else. -/
theorem hasPlace_commentCode (frames : List TypeNode.Frame) :
    HasPlace (commentCode (TypeNode.objectDepth frames))
      (fun raw : RawText => (ofNode (TypeNode.plug frames raw.node)).code) := by
  obtain ⟨outer, depth, equal⟩ := exists_frames_ofNode frames
  have placed := hasPlace_plug (HasPlace.refl (fun raw => (ofRaw raw).code)) outer
  simpa only [depth, equal, iterate_hang_code_ofRaw] using placed

end Validator

/-- A schema has a place for what has a place in its validator. -/
theorem Schema.hasPlace_code {α : Type} {part : α → String} {body : α → Validator}
    (place : HasPlace part (fun value => (body value).code)) (name : String) (isLazy : Bool) :
    HasPlace part (fun value => (⟨name, isLazy, body value⟩ : Schema).code) := by
  cases isLazy with
  | true =>
      exact place.within
        ("export const " ++ Naming.schema name ++ ": z.ZodType<" ++ name ++ "> = z.lazy(() => ") ");"
  | false =>
      exact (place.within ("export const " ++ Naming.schema name ++ " = ") ";").unlines []
        [typeExport name]

/-- Of the text for a raw text, only the content of a comment depends on the raw text. The content is the
raw text as it is shown, moved to the right the given number of times. It holds no end of a comment, so
the comment is read up to its own end. -/
def ShowsInComment (depth : Nat) (text : RawText → String) : Prop :=
  ∃ before after : String, ∀ raw : RawText,
    text raw = before ++ ("z.any() /*" ++ commentContent depth raw.1 ++ "*/") ++ after ∧
      ¬ Contains (commentContent depth raw.1) "*/" ∧
      readComment? (commentContent depth raw.1 ++ "*/" ++ after).toList =
        some ((commentContent depth raw.1).toList, after.toList)

theorem ShowsInComment.of_hasPlace {depth : Nat} {text : RawText → String}
    (place : HasPlace (Validator.commentCode depth) text) : ShowsInComment depth text := by
  obtain ⟨before, after, around⟩ := place
  refine ⟨before, after, fun raw => ⟨around raw, ?_, ?_⟩⟩
  · exact Text.not_commentEnd_infix_commentContent depth raw.1
  · rw [String.toList_append, String.toList_append, List.append_assoc]
    exact Text.readComment?_commentContent depth raw.1 after.toList

namespace Validator

/-- A validator shows the raw texts that stand in the type, at the bottom of any arrays, tuples, unions,
intersections, records and properties. Each is shown in a comment of its own that is closed by its own
end only, in the validator as in the schema of a declaration. -/
theorem raw_text_stays_in_comment :
    (∀ (node : TypeNode) (raw : RawText), .described raw.1 ∈ (ofNode node).gaps ↔
      ∃ frames, node = TypeNode.plug frames raw.node) ∧
    ∀ frames : List TypeNode.Frame,
      ShowsInComment (TypeNode.objectDepth frames)
        (fun raw => (ofNode (TypeNode.plug frames raw.node)).code) ∧
      ∀ (context : Context) (name : String) (dependencies : List String) (exported : Bool),
        exported = true ∨ context.isNeeded name = true →
        ∃ text, ShowsInComment (TypeNode.objectDepth frames) text ∧ ∀ raw : RawText,
          (Schema.build context
            ⟨name, TypeNode.plug frames raw.node, dependencies, exported⟩).result.map Schema.code =
            some (text raw) := by
  refine ⟨fun node raw => described_mem_gaps_iff, fun frames => ?_⟩
  have place := hasPlace_commentCode frames
  refine ⟨.of_hasPlace place, fun context name dependencies exported emitted => ?_⟩
  refine ⟨_, .of_hasPlace (Schema.hasPlace_code place name (context.isRecursive name)), ?_⟩
  intro raw
  have valued : (TypeNode.plug frames raw.node).isFunction = false :=
    TypeNode.isFunction_plug rfl frames
  have built : (Schema.build context
      ⟨name, TypeNode.plug frames raw.node, dependencies, exported⟩).result =
      some ⟨name, context.isRecursive name, ofNode (TypeNode.plug frames raw.node)⟩ :=
    Schema.result_build_eq_some_iff.mpr ⟨emitted, valued, rfl⟩
  rw [built]
  rfl

/-- Optional values, each of them a number or an object with something that is known by its text
only. -/
def valuesFrames : List TypeNode.Frame :=
  [.property [⟨"id", .primitive "string", false⟩] "values" true [] none, .element,
    .alternative [.primitive "number"] [], .property [] "raw" false [] none]

theorem values_comment_closed :
    ∃ before after,
      (ofNode (TypeNode.plug valuesFrames (.unknown (some "**//\n*/")))).code =
        before ++ ("z.any() /*" ++ " ** //\n    * / " ++ "*/") ++ after ∧
      ¬ Contains " ** //\n    * / " "*/" ∧
      readComment? (" ** //\n    * / " ++ "*/" ++ after).toList =
        some (" ** //\n    * / ".toList, after.toList) := by
  have content : commentContent (TypeNode.objectDepth valuesFrames) "**//\n*/" =
      " ** //\n    * / " := by
    decide
  obtain ⟨before, after, shown⟩ := (raw_text_stays_in_comment.2 valuesFrames).1
  have there := shown ⟨"**//\n*/", by decide⟩
  rw [content] at there
  exact ⟨before, after, there⟩

end Validator

end TypeScaffold
