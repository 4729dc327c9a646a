import TypeScaffold.Proofs.Model.Surroundings
import TypeScaffold.Proofs.Text.Blocks
import TypeScaffold.Proofs.Text.Comments
import TypeScaffold.Proofs.Validator.Optional

/-!
# What surrounds a part of a validator

The validator of a type has the validators of its parts as parts, each within frames that depend on
what surrounds the part in the type and not on the part. In the text of a validator a part has a place
of its own, further in by one step for every object around it.
-/

namespace TypeScaffold

namespace Validator

/-- A step from a validator down to a part of it: all that stands around the part. -/
inductive Frame where
  | element
  | item (front behind : List Validator)
  | alternative (front behind : List Validator)
  /-- The part stands between objects that are told apart by the key. -/
  | keyed (key : String) (front behind : List Validator)
  /-- The part is the left one of two that both have to accept. -/
  | leftOf (right : Validator)
  /-- The part is the right one of two that both have to accept. -/
  | rightOf (left : Validator)
  | field (front : List (String × Validator)) (name : String) (behind : List (String × Validator))
  | recordKey (content : Validator)
  | recordContent (key : Validator)
  | optional
  | nullable

/-- The validator that the frame makes of a part. -/
def Frame.fill : Frame → Validator → Validator
  | .element, part => .array part
  | .item front behind, part => .tuple (front ++ part :: behind)
  | .alternative front behind, part => .union (front ++ part :: behind)
  | .keyed key front behind, part => .discriminated key (front ++ part :: behind)
  | .leftOf right, part => .both part right
  | .rightOf left, part => .both left part
  | .field front name behind, part => .object (front ++ (name, part) :: behind)
  | .recordKey content, part => .record part content
  | .recordContent key, part => .record key part
  | .optional, part => .optional part
  | .nullable, part => .nullable part

/-- The validator with the part within the frames, the outermost first. -/
def plug (frames : List Frame) (part : Validator) : Validator :=
  frames.foldr Frame.fill part

def Frame.isField : Frame → Bool
  | .field .. => true
  | _ => false

/-- In how many objects, one within the other, the part stands. -/
def objectDepth (frames : List Frame) : Nat :=
  frames.countP Frame.isField

theorem plug_append (outer inner : List Frame) (part : Validator) :
    plug (outer ++ inner) part = plug outer (plug inner part) :=
  List.foldr_append

theorem objectDepth_append (outer inner : List Frame) :
    objectDepth (outer ++ inner) = objectDepth outer + objectDepth inner :=
  List.countP_append

theorem objectDepth_cons_of_not_isField {frame : Frame} (flat : frame.isField = false)
    (frames : List Frame) : objectDepth (frame :: frames) = objectDepth frames := by
  rw [objectDepth, List.countP_cons_of_neg (by rw [flat]; exact Bool.false_ne_true), objectDepth]

/-! ## Places in texts -/

open Text (HasPlace)

theorem codes_eq_map (validators : List Validator) : codes validators = validators.map code := by
  induction validators with
  | nil => rfl
  | cons validator rest inductionHypothesis => rw [codes, List.map_cons, inductionHypothesis]

theorem fieldCodes_eq_map (fields : List (String × Validator)) :
    fieldCodes fields = fields.map (fun field => fieldCode field.1 field.2.code) := by
  induction fields with
  | nil => rfl
  | cons field rest inductionHypothesis => rw [fieldCodes, List.map_cons, inductionHypothesis]

theorem code_object {fields : List (String × Validator)} (filled : fields ≠ []) :
    (object fields).code = Text.unlines (r"z.object({" :: fieldCodes fields ++ [r"})"]) := by
  obtain ⟨field, others, rfl⟩ := List.exists_cons_of_ne_nil filled
  have more : fieldCodes (field :: others) ≠ [] := List.cons_ne_nil _ _
  have lines : r"z.object({" :: fieldCodes (field :: others) ++ [r"})"] =
      [r"z.object({"] ++ (fieldCodes (field :: others) ++ [r"})"]) :=
    rfl
  have text : (object (field :: others)).code =
      r"z.object({" ++ "\n" ++ Text.unlines (fieldCodes (field :: others)) ++ "\n" ++ r"})" :=
    rfl
  rw [lines, Text.unlines_append (List.cons_ne_nil _ _) (List.append_ne_nil_of_left_ne_nil more _),
    Text.unlines_append more (List.cons_ne_nil _ _), text]
  simp only [Text.unlines, String.intercalate_singleton, String.append_assoc]

section Place

variable {α : Type} {code : α → String} {part : α → Validator}

theorem hasPlace_codes (place : HasPlace code (fun value => (part value).code))
    (front behind : List Validator) :
    HasPlace code (fun value => ", ".intercalate (codes (front ++ part value :: behind))) := by
  have placed := place.intercalate ", " (codes behind) (codes front)
  simpa only [codes_eq_map, List.map_append, List.map_cons] using placed

theorem hasPlace_fieldCode (place : HasPlace code (fun value => (part value).code)) (name : String) :
    HasPlace (fun value => Text.hang (code value))
      (fun value => fieldCode name (part value).code) :=
  (place.within ("  " ++ name ++ ": ") ",").hang

theorem hasPlace_object {field : α → String} {name : String}
    (place : HasPlace field (fun value => fieldCode name (part value).code))
    (front behind : List (String × Validator)) :
    HasPlace field (fun value => (object (front ++ (name, part value) :: behind)).code) := by
  have placed := place.unlines (r"z.object({" :: fieldCodes front) (fieldCodes behind ++ [r"})"])
  have filled : ∀ value, front ++ (name, part value) :: behind ≠ [] :=
    fun value => List.append_ne_nil_of_right_ne_nil front (List.cons_ne_nil _ behind)
  simpa only [code_object (filled _), fieldCodes_eq_map, List.map_append, List.map_cons,
    List.cons_append, List.append_assoc] using placed

/-- A part within a frame has its place in the text, further in by one step if the frame is an
object. -/
theorem hasPlace_fill (place : HasPlace code (fun value => (part value).code)) :
    ∀ frame : Frame,
      HasPlace (fun value => if frame.isField then Text.hang (code value) else code value)
        (fun value => (frame.fill (part value)).code)
  | .element => place.within "z.array(" ")"
  | .item front behind => (hasPlace_codes place front behind).within "z.tuple([" "])"
  | .alternative front behind => (hasPlace_codes place front behind).within "z.union([" "])"
  | .keyed key front behind =>
      (hasPlace_codes place front behind).within
        ("z.discriminatedUnion(" ++ Text.doubleQuoted key ++ ", [") "])"
  | .leftOf right => ((place.followed ".and(").followed right.code).followed ")"
  | .rightOf left => place.within (left.code ++ ".and(") ")"
  | .field front name behind => hasPlace_object (hasPlace_fieldCode place name) front behind
  | .recordKey content => ((place.within "z.record(" ", ").followed content.code).followed ")"
  | .recordContent key => place.within ("z.record(" ++ key.code ++ ", ") ")"
  | .optional => place.followed optionalSuffix
  | .nullable => place.followed ".nullable()"

/-- A part has its place in the text, further in by one step for every object around it. -/
theorem hasPlace_plug (place : HasPlace code (fun value => (part value).code))
    (frames : List Frame) :
    HasPlace (fun value => Text.hang^[objectDepth frames] (code value))
      (fun value => (plug frames (part value)).code) := by
  induction frames with
  | nil => exact place
  | cons frame rest inductionHypothesis =>
      have placed := hasPlace_fill inductionHypothesis frame
      have deeper : ∀ text, Text.hang^[objectDepth (frame :: rest)] text =
          if frame.isField then Text.hang (Text.hang^[objectDepth rest] text)
          else Text.hang^[objectDepth rest] text := by
        intro text
        rw [objectDepth, List.countP_cons, ← objectDepth]
        split
        · exact Function.iterate_succ_apply' Text.hang _ text
        · rfl
      simp only [deeper]
      exact placed

end Place

end Validator

end TypeScaffold
