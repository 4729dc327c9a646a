import TypeScaffold.Proofs.Model.Choice

/-!
# What surrounds a part of a type

A part of a type stands within frames, one for each step from the whole type down to it. Neither the
kind of the whole nor its place among objects that are told apart depends on what the part is, unless
the part is a literal or a primitive itself.
-/

namespace TypeScaffold

/-- The property with its type left open, unless that is a literal. -/
def PropertyOf.outline (property : Property) : Property :=
  if property.type.isLiteral then property else { property with type := .function }

theorem PropertyOf.name_outline (property : Property) : property.outline.name = property.name := by
  rw [outline]
  split <;> rfl

theorem PropertyOf.isLiteral_outline (property : Property) :
    property.outline.type.isLiteral = property.type.isLiteral := by
  rw [outline]
  split
  · rfl
  · rename_i other
    rw [eq_false_of_ne_true other]
    rfl

namespace TypeNode

/-- A step from a type down to a part of it: all that stands around the part. -/
inductive Frame where
  /-- The part is the element of an array. -/
  | element
  /-- The part stands between elements of a tuple. -/
  | item (front behind : List TypeNode)
  /-- The part stands between members of a union. -/
  | alternative (front behind : List TypeNode)
  /-- The part stands between members of an intersection. -/
  | conjunct (front behind : List TypeNode)
  /-- The part is the type of a property of an object, which may be optional. -/
  | property (front : List Property) (name : String) (optional : Bool) (behind : List Property)
      (objectName : Option String)
  /-- The part is the type of the keys of a record. -/
  | recordKey (content : TypeNode)
  /-- The part is the type of the values of a record. -/
  | recordContent (key : TypeNode)

/-- The type that the frame makes of a part. -/
def Frame.fill : Frame → TypeNode → TypeNode
  | .element, part => .array (some part)
  | .item front behind, part => .tuple (front ++ part :: behind)
  | .alternative front behind, part => .union (front ++ part :: behind)
  | .conjunct front behind, part => .intersection (front ++ part :: behind)
  | .property front name optional behind objectName, part =>
      .object (front ++ ⟨name, part, optional⟩ :: behind) objectName
  | .recordKey content, part => .record (some part) (some content)
  | .recordContent key, part => .record (some key) (some part)

/-- The type with the part within the frames, the outermost first. -/
def plug (frames : List Frame) (part : TypeNode) : TypeNode :=
  frames.foldr Frame.fill part

def Frame.isProperty : Frame → Bool
  | .property .. => true
  | _ => false

/-- In how many objects, one within the other, the part stands. -/
def objectDepth (frames : List Frame) : Nat :=
  frames.countP Frame.isProperty

/-- The type is a primitive or a literal, which a union may treat in its own way. -/
def isSimple : TypeNode → Bool
  | .primitive _ | .literal _ => true
  | _ => false

theorem isPrimitive_of_isSimple_eq_false {node : TypeNode} (compound : node.isSimple = false)
    (name : String) : node.isPrimitive name = false := by
  cases node with
  | primitive other => cases compound
  | _ => rfl

theorem isLiteral_of_isSimple_eq_false {node : TypeNode} (compound : node.isSimple = false) :
    node.isLiteral = false := by
  cases node with
  | literal value => cases compound
  | _ => rfl

theorem isSimple_fill (frame : Frame) (part : TypeNode) : (frame.fill part).isSimple = false := by
  cases frame <;> rfl

theorem isSimple_plug {part : TypeNode} (compound : part.isSimple = false) (frames : List Frame) :
    (plug frames part).isSimple = false := by
  cases frames with
  | nil => exact compound
  | cons frame rest => exact isSimple_fill frame (plug rest part)

theorem isFunction_plug {part : TypeNode} (valued : part.isFunction = false)
    (frames : List Frame) : (plug frames part).isFunction = false := by
  cases frames with
  | nil => exact valued
  | cons frame rest => cases frame <;> rfl

/-- A union with a member that is no literal is no choice among texts. -/
theorem textChoices?_of_isSimple_eq_false {node : TypeNode} (compound : node.isSimple = false)
    (front behind : List TypeNode) : textChoices? (front ++ node :: behind) = none := by
  rw [Option.eq_none_iff_forall_ne_some]
  intro options found
  have listed : node ∈ options.map (fun option => TypeNode.literal (.text option)) := by
    rw [← eq_map_of_textChoices? found]
    exact List.mem_append_right front List.mem_cons_self
  obtain ⟨option, _, rfl⟩ := List.mem_map.mp listed
  cases compound

/-! ## Outlines -/

/-- The type with the types of its properties left open, unless they are literals. Of a type that is
no object nothing is kept. -/
def outline : TypeNode → TypeNode
  | .object properties _ => .object (properties.map PropertyOf.outline) none
  | _ => .function

theorem properties?_outline (node : TypeNode) :
    node.outline.properties? = node.properties?.map (List.map PropertyOf.outline) := by
  cases node <;> rfl

theorem hasLiteral_map_outline (key : String) (properties : List Property) :
    hasLiteral key (properties.map PropertyOf.outline) = hasLiteral key properties := by
  have named : (fun property : Property => property.name == key) ∘ PropertyOf.outline =
      fun property => property.name == key := by
    funext property
    rw [Function.comp_apply, PropertyOf.name_outline]
  rw [hasLiteral, hasLiteral, List.find?_map, named]
  cases properties.find? (fun property => property.name == key) with
  | none => rfl
  | some property => exact property.isLiteral_outline

theorem mapM_properties?_outline (members : List TypeNode) :
    (members.map outline).mapM properties? =
      (members.mapM properties?).map (List.map (List.map PropertyOf.outline)) := by
  induction members with
  | nil => rfl
  | cons member rest inductionHypothesis =>
      rw [List.map_cons, List.mapM_cons, List.mapM_cons, inductionHypothesis, properties?_outline]
      cases member.properties? with
      | none => rfl
      | some properties => cases rest.mapM properties? <;> rfl

/-- The key by which objects are told apart can be seen from their outlines. -/
theorem discriminator?_map_outline (members : List TypeNode) :
    discriminator? (members.map outline) = discriminator? members := by
  rw [discriminator?, discriminator?, mapM_properties?_outline]
  match members.mapM properties? with
  | none => rfl
  | some [] => rfl
  | some (first :: others) =>
      let outlines := (first :: others).map (List.map PropertyOf.outline)
      have everywhere : ∀ key,
          outlines.all (hasLiteral key) = (first :: others).all (hasLiteral key) := by
        intro key
        rw [List.all_map]
        exact congrArg (List.all (first :: others)) (funext (hasLiteral_map_outline key))
      have tried : (fun property : Property =>
            property.type.isLiteral && outlines.all (hasLiteral property.name)) ∘
          PropertyOf.outline =
          fun property => property.type.isLiteral &&
            (first :: others).all (hasLiteral property.name) := by
        funext property
        rw [Function.comp_apply, PropertyOf.isLiteral_outline, PropertyOf.name_outline, everywhere]
      change ((first.map PropertyOf.outline).find? (fun property =>
        property.type.isLiteral && outlines.all (hasLiteral property.name))).map PropertyOf.name = _
      rw [List.find?_map, tried, Option.map_map]
      exact congrArg (fun name => Option.map name _) (funext PropertyOf.name_outline)

theorem outline_fill {part other : TypeNode} (compound : part.isSimple = false)
    (compoundToo : other.isSimple = false) (frame : Frame) :
    (frame.fill part).outline = (frame.fill other).outline := by
  cases frame with
  | property front name optional behind objectName =>
      have leftOpen : ∀ node : TypeNode, node.isSimple = false →
          (⟨name, node, optional⟩ : Property).outline = ⟨name, .function, optional⟩ := by
        intro node isCompound
        rw [PropertyOf.outline, if_neg]
        rw [isLiteral_of_isSimple_eq_false isCompound]
        exact Bool.false_ne_true
      rw [Frame.fill, Frame.fill, outline, outline, List.map_append, List.map_append, List.map_cons,
        List.map_cons, leftOpen part compound, leftOpen other compoundToo]
  | _ => rfl

/-- Members around a part are told apart by a key that does not depend on the part. -/
theorem discriminator?_plug_eq (part other : TypeNode) (compound : part.isSimple = false)
    (compoundToo : other.isSimple = false) (outlines : part.outline = other.outline)
    (frames : List Frame) (front behind : List TypeNode) :
    discriminator? (front ++ plug frames part :: behind) =
      discriminator? (front ++ plug frames other :: behind) := by
  have alike : (plug frames part).outline = (plug frames other).outline := by
    cases frames with
    | nil => exact outlines
    | cons frame rest =>
        exact outline_fill (isSimple_plug compound rest) (isSimple_plug compoundToo rest) frame
  rw [← discriminator?_map_outline, ← discriminator?_map_outline (front ++ plug frames other :: behind),
    List.map_append, List.map_append, List.map_cons, List.map_cons, alike]

end TypeNode

end TypeScaffold
