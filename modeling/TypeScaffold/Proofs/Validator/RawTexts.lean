import TypeScaffold.Proofs.Validator.Surroundings

/-!
# Raw texts in validators

A type that is known by its text only may stand anywhere within others. The frames around the text in
the validator depend on what surrounds it in the type and not on the text, and no text is shown but those
that stand in the type so.
-/

namespace TypeScaffold

/-- The text by which a type is known. -/
abbrev RawText :=
  { text : String // text ≠ "" }

namespace RawText

/-- The type that is known by the text only. -/
def node (raw : RawText) : TypeNode :=
  .unknown (some raw.1)

theorem isSimple_plug_node (frames : List TypeNode.Frame) (raw : RawText) :
    (TypeNode.plug frames raw.node).isSimple = false :=
  TypeNode.isSimple_plug rfl frames

theorem isPrimitive_plug_node (frames : List TypeNode.Frame) (name : String) (raw : RawText) :
    (TypeNode.plug frames raw.node).isPrimitive name = false :=
  TypeNode.isPrimitive_of_isSimple_eq_false (raw.isSimple_plug_node frames) name

end RawText

namespace Validator

/-- The validator that shows the text. -/
def ofRaw (raw : RawText) : Validator :=
  .gap (.described raw.1)

theorem ofNode_node (raw : RawText) : ofNode raw.node = ofRaw raw := by
  rw [RawText.node, ofNode, ofRawText]
  · rfl
  · exact raw.2

/-! ## Frames -/

theorem exists_frames_asOptional (frames : List Frame) :
    ∃ outer, objectDepth outer = objectDepth frames ∧
      ∀ raw, (plug frames (ofRaw raw)).asOptional = plug outer (ofRaw raw) := by
  cases frames with
  | nil => exact ⟨[.optional], rfl, fun _ => rfl⟩
  | cons frame rest =>
      cases frame with
      | optional => exact ⟨.optional :: rest, rfl, fun _ => rfl⟩
      | _ =>
          exact ⟨.optional :: _, objectDepth_cons_of_not_isField rfl _, fun _ => rfl⟩

theorem foldl_both_eq_plug (validators : List Validator) (part : Validator) :
    validators.foldl .both part = plug (validators.reverse.map .leftOf) part := by
  induction validators generalizing part with
  | nil => rfl
  | cons validator rest inductionHypothesis =>
      rw [List.foldl_cons, inductionHypothesis, List.reverse_cons, List.map_append, plug_append]
      rfl

theorem objectDepth_map_leftOf (validators : List Validator) :
    objectDepth (validators.map .leftOf) = 0 := by
  rw [objectDepth, List.countP_map, List.countP_eq_zero]
  exact fun _ _ => Bool.false_ne_true

theorem exists_frames_all (front behind : List Validator) :
    ∃ outer, objectDepth outer = 0 ∧
      ∀ part, all (front ++ part :: behind) = plug outer part := by
  cases front with
  | nil =>
      exact ⟨behind.reverse.map .leftOf, objectDepth_map_leftOf _, foldl_both_eq_plug behind⟩
  | cons first others =>
      refine ⟨behind.reverse.map .leftOf ++ [.rightOf (others.foldl .both first)], ?_, ?_⟩
      · rw [objectDepth_append, objectDepth_map_leftOf]
        rfl
      · intro part
        rw [List.cons_append, all, List.foldl_append, List.foldl_cons, foldl_both_eq_plug behind,
          plug_append]
        rfl

theorem ofUnion_of_nullable {members : List TypeNode} {validators : List Validator}
    {core : Validator} (required : TypeNode.optionalCore? members validators = none)
    (found : TypeNode.nullableCore? members validators = some core) :
    ofUnion members validators = .nullable core := by
  cases members with
  | nil => cases found
  | cons first rest => simp only [ofUnion, required, found]

section Mixed

variable {members : List TypeNode} {validators : List Validator}
  (required : TypeNode.optionalCore? members validators = none)
  (present : TypeNode.nullableCore? members validators = none)
  (mixed : TypeNode.textChoices? members = none)

include required present mixed

theorem ofUnion_of_discriminator? {key : String}
    (told : TypeNode.discriminator? members = some key) :
    ofUnion members validators = .discriminated key validators := by
  cases members with
  | nil => cases told
  | cons first rest => simp only [ofUnion, required, present, mixed, told]

theorem ofUnion_of_untold (filled : members ≠ [])
    (untold : TypeNode.discriminator? members = none) :
    ofUnion members validators = .union validators := by
  cases members with
  | nil => exact absurd rfl filled
  | cons first rest => simp only [ofUnion, required, present, mixed, untold]

end Mixed

/-! ## Validators of types around a raw text -/

theorem ofNodes_append_cons (front : List TypeNode) (node : TypeNode) (behind : List TypeNode) :
    ofNodes (front ++ node :: behind) = ofNodes front ++ ofNode node :: ofNodes behind := by
  rw [ofNodes_eq_map, ofNodes_eq_map, ofNodes_eq_map, List.map_append, List.map_cons]

theorem ofProperties_append_cons (front : List Property) (property : Property)
    (behind : List Property) :
    ofProperties (front ++ property :: behind) =
      ofProperties front ++ (property.name, ofProperty property) :: ofProperties behind := by
  rw [ofProperties_eq_map, ofProperties_eq_map, ofProperties_eq_map, List.map_append, List.map_cons]

section Frames

variable {frames : List TypeNode.Frame} {inner : List Frame}
  (inside : ∀ raw : RawText, ofNode (TypeNode.plug frames raw.node) = plug inner (ofRaw raw))
  (front behind : List TypeNode)

include inside

theorem optionalCore?_plug :
    (∀ raw : RawText, TypeNode.optionalCore? (front ++ TypeNode.plug frames raw.node :: behind)
        (ofNodes (front ++ TypeNode.plug frames raw.node :: behind)) =
          some (plug inner (ofRaw raw))) ∨
      ∀ raw : RawText, TypeNode.optionalCore? (front ++ TypeNode.plug frames raw.node :: behind)
        (ofNodes (front ++ TypeNode.plug frames raw.node :: behind)) = none := by
  have fails : ∀ raw : RawText, (TypeNode.plug frames raw.node).isUndefined = false :=
    RawText.isPrimitive_plug_node frames _
  have beside := companion?_beside fails ofNode front behind
  simpa only [TypeNode.optionalCore?, ofNodes_eq_map, inside] using beside

theorem nullableCore?_plug :
    (∀ raw : RawText, TypeNode.nullableCore? (front ++ TypeNode.plug frames raw.node :: behind)
        (ofNodes (front ++ TypeNode.plug frames raw.node :: behind)) =
          some (plug inner (ofRaw raw))) ∨
      ∀ raw : RawText, TypeNode.nullableCore? (front ++ TypeNode.plug frames raw.node :: behind)
        (ofNodes (front ++ TypeNode.plug frames raw.node :: behind)) = none := by
  have notUndefined : ∀ raw : RawText, (TypeNode.plug frames raw.node).isUndefined = false :=
    RawText.isPrimitive_plug_node frames _
  have fails : ∀ raw : RawText, (TypeNode.plug frames raw.node).isNull = false :=
    RawText.isPrimitive_plug_node frames _
  have among : ∀ raw : RawText,
      (front ++ TypeNode.plug frames raw.node :: behind).any TypeNode.isUndefined =
        (front.any TypeNode.isUndefined || behind.any TypeNode.isUndefined) := by
    intro raw
    rw [List.any_append, List.any_cons, notUndefined raw, Bool.false_or]
  cases others : front.any TypeNode.isUndefined || behind.any TypeNode.isUndefined with
  | true =>
      refine Or.inr (fun raw => ?_)
      rw [TypeNode.nullableCore?, among, others, if_pos rfl]
  | false =>
      have beside := companion?_beside fails ofNode front behind
      simpa only [TypeNode.nullableCore?, among, others, Bool.false_eq_true, if_false,
        ofNodes_eq_map, inside] using beside

theorem exists_frames_ofUnion :
    ∃ outer, objectDepth outer = objectDepth inner ∧ ∀ raw : RawText,
      ofNode (.union (front ++ TypeNode.plug frames raw.node :: behind)) =
        plug outer (ofRaw raw) := by
  rcases optionalCore?_plug inside front behind with found | required
  · obtain ⟨outer, depth, equal⟩ := exists_frames_asOptional inner
    refine ⟨outer, depth, fun raw => ?_⟩
    rw [ofNode, ofUnion_of_eq_some (found raw), equal]
  rcases nullableCore?_plug inside front behind with found | present
  · refine ⟨.nullable :: inner, objectDepth_cons_of_not_isField rfl inner, fun raw => ?_⟩
    rw [ofNode, ofUnion_of_nullable (required raw) (found raw)]
    rfl
  have mixed := fun raw : RawText =>
    TypeNode.textChoices?_of_isSimple_eq_false (raw.isSimple_plug_node frames) front behind
  have alike : ∀ raw : RawText,
      TypeNode.discriminator? (front ++ TypeNode.plug frames raw.node :: behind) =
        TypeNode.discriminator? (front ++ TypeNode.plug frames (.unknown none) :: behind) :=
    fun raw =>
      TypeNode.discriminator?_plug_eq raw.node (.unknown none) rfl rfl rfl frames front behind
  cases told : TypeNode.discriminator? (front ++ TypeNode.plug frames (.unknown none) :: behind) with
  | some key =>
      refine ⟨.keyed key (ofNodes front) (ofNodes behind) :: inner,
        objectDepth_cons_of_not_isField rfl inner, fun raw => ?_⟩
      rw [ofNode, ofUnion_of_discriminator? (required raw) (present raw) (mixed raw)
        ((alike raw).trans told), ofNodes_append_cons, inside]
      rfl
  | none =>
      have filled : ∀ raw : RawText, front ++ TypeNode.plug frames raw.node :: behind ≠ [] :=
        fun raw => List.append_ne_nil_of_right_ne_nil front (List.cons_ne_nil _ behind)
      refine ⟨.alternative (ofNodes front) (ofNodes behind) :: inner,
        objectDepth_cons_of_not_isField rfl inner, fun raw => ?_⟩
      rw [ofNode, ofUnion_of_untold (required raw) (present raw) (mixed raw) (filled raw)
        ((alike raw).trans told), ofNodes_append_cons, inside]
      rfl

theorem exists_frames_ofProperty (name : String) (marked : Bool) :
    ∃ outer, objectDepth outer = objectDepth inner ∧ ∀ raw : RawText,
      ofProperty ⟨name, TypeNode.plug frames raw.node, marked⟩ = plug outer (ofRaw raw) := by
  cases marked with
  | false => exact ⟨inner, rfl, inside⟩
  | true =>
      obtain ⟨outer, depth, equal⟩ := exists_frames_asOptional inner
      refine ⟨outer, depth, fun raw => ?_⟩
      rw [← equal, ← inside]
      rfl

/-- One more step of a type around a raw text is one of the validator, or at most two: a property may
be optional, and an intersection of several types is joined from the left. -/
theorem exists_frames_fill (frame : TypeNode.Frame) :
    ∃ outer, objectDepth outer = objectDepth inner + (if frame.isProperty then 1 else 0) ∧
      ∀ raw : RawText,
        ofNode (frame.fill (TypeNode.plug frames raw.node)) = plug outer (ofRaw raw) := by
  cases frame with
  | element =>
      exact ⟨.element :: inner, objectDepth_cons_of_not_isField rfl inner,
        fun raw => congrArg Validator.array (inside raw)⟩
  | item front behind =>
      refine ⟨.item (ofNodes front) (ofNodes behind) :: inner,
        objectDepth_cons_of_not_isField rfl inner, fun raw => ?_⟩
      rw [TypeNode.Frame.fill, ofNode, ofNodes_append_cons, inside]
      rfl
  | alternative front behind => exact exists_frames_ofUnion inside front behind
  | conjunct front behind =>
      obtain ⟨joined, flat, equal⟩ := exists_frames_all (ofNodes front) (ofNodes behind)
      refine ⟨joined ++ inner, ?_, fun raw => ?_⟩
      · rw [objectDepth_append, flat, Nat.zero_add]
        rfl
      · rw [TypeNode.Frame.fill, ofNode, ofNodes_append_cons, inside, equal, plug_append]
  | property front name marked behind objectName =>
      obtain ⟨within, depth, equal⟩ := exists_frames_ofProperty inside name marked
      refine ⟨.field (ofProperties front) name (ofProperties behind) :: within, ?_, fun raw => ?_⟩
      · rw [objectDepth, List.countP_cons_of_pos rfl, ← objectDepth, depth]
        rfl
      · rw [TypeNode.Frame.fill, ofNode, ofProperties_append_cons, equal]
        rfl
  | recordKey content =>
      exact ⟨.recordKey (ofNode content) :: inner, objectDepth_cons_of_not_isField rfl inner,
        fun raw => congrArg (Validator.record · (ofNode content)) (inside raw)⟩
  | recordContent key =>
      exact ⟨.recordContent (ofNode key) :: inner, objectDepth_cons_of_not_isField rfl inner,
        fun raw => congrArg (Validator.record (ofNode key)) (inside raw)⟩

end Frames

/-- The validator of a type shows a raw text within frames that do not depend on the text, as many of
them objects as stand around the text in the type. -/
theorem exists_frames_ofNode (frames : List TypeNode.Frame) :
    ∃ outer, objectDepth outer = TypeNode.objectDepth frames ∧ ∀ raw : RawText,
      ofNode (TypeNode.plug frames raw.node) = plug outer (ofRaw raw) := by
  induction frames with
  | nil => exact ⟨[], rfl, ofNode_node⟩
  | cons frame rest inductionHypothesis =>
      obtain ⟨inner, depth, inside⟩ := inductionHypothesis
      obtain ⟨outer, deeper, equal⟩ := exists_frames_fill inside frame
      refine ⟨outer, ?_, equal⟩
      rw [deeper, depth, TypeNode.objectDepth, TypeNode.objectDepth, List.countP_cons]

/-! ## Which raw texts are shown -/

theorem mem_gapsOfAll_iff {reason : Gap} {validators : List Validator} :
    reason ∈ gapsOfAll validators ↔ ∃ validator ∈ validators, reason ∈ validator.gaps := by
  induction validators with
  | nil => simp [gapsOfAll]
  | cons validator rest inductionHypothesis =>
      rw [gapsOfAll, List.mem_append, inductionHypothesis, List.exists_mem_cons_iff]

theorem mem_gapsOfFields_iff {reason : Gap} {fields : List (String × Validator)} :
    reason ∈ gapsOfFields fields ↔ ∃ field ∈ fields, reason ∈ field.2.gaps := by
  induction fields with
  | nil => simp [gapsOfFields]
  | cons field rest inductionHypothesis =>
      rw [gapsOfFields, List.mem_append, inductionHypothesis, List.exists_mem_cons_iff]

@[simp]
theorem gaps_asOptional (validator : Validator) : validator.asOptional.gaps = validator.gaps := by
  cases validator <;> rfl

theorem gaps_foldl_both (validators : List Validator) (first : Validator) :
    (validators.foldl .both first).gaps = first.gaps ++ gapsOfAll validators := by
  induction validators generalizing first with
  | nil => exact (List.append_nil first.gaps).symm
  | cons validator rest inductionHypothesis =>
      rw [List.foldl_cons, inductionHypothesis, gaps, gapsOfAll, List.append_assoc]

theorem gaps_all (validators : List Validator) : (all validators).gaps = gapsOfAll validators := by
  cases validators with
  | nil => rfl
  | cons first rest => rw [all, gaps_foldl_both, gapsOfAll]

/-- The reasons of a union are those of its members. -/
theorem gaps_ofUnion_subset (members : List TypeNode) (validators : List Validator) :
    (ofUnion members validators).gaps ⊆ gapsOfAll validators := by
  intro reason there
  unfold ofUnion at there
  split at there
  · cases there
  split at there
  · rename_i core found
    rw [gaps_asOptional] at there
    exact mem_gapsOfAll_iff.mpr ⟨core, mem_of_companion? found, there⟩
  split at there
  · rename_i core found
    unfold TypeNode.nullableCore? at found
    split at found
    · cases found
    · exact mem_gapsOfAll_iff.mpr ⟨core, mem_of_companion? found, there⟩
  split at there
  · cases there
  split at there <;> exact there

theorem gaps_subset_gaps_fill (frame : Frame) (part : Validator) :
    part.gaps ⊆ (frame.fill part).gaps := by
  have among : ∀ front behind : List Validator,
      part.gaps ⊆ gapsOfAll (front ++ part :: behind) := fun front behind reason there =>
    mem_gapsOfAll_iff.mpr ⟨part, List.mem_append_right front List.mem_cons_self, there⟩
  cases frame with
  | item front behind => exact among front behind
  | alternative front behind => exact among front behind
  | keyed key front behind => exact among front behind
  | field front name behind =>
      exact fun reason there => mem_gapsOfFields_iff.mpr
        ⟨(name, part), List.mem_append_right front List.mem_cons_self, there⟩
  | leftOf right => exact List.subset_append_left part.gaps right.gaps
  | rightOf left => exact List.subset_append_right left.gaps part.gaps
  | recordKey content => exact List.subset_append_left part.gaps content.gaps
  | recordContent key => exact List.subset_append_right key.gaps part.gaps
  | _ => exact List.Subset.refl part.gaps

theorem gaps_subset_gaps_plug (frames : List Frame) (part : Validator) :
    part.gaps ⊆ (plug frames part).gaps := by
  induction frames with
  | nil => exact List.Subset.refl part.gaps
  | cons frame rest inductionHypothesis =>
      exact List.Subset.trans inductionHypothesis (gaps_subset_gaps_fill frame (plug rest part))

theorem described_notMem_gaps_ofPrimitive (name rawText : String) :
    .described rawText ∉ (ofPrimitive name).gaps := by
  unfold ofPrimitive
  split <;> simp [gaps]

theorem described_notMem_gaps_ofEnumeration (members : List EnumMember) (rawText : String) :
    .described rawText ∉ (ofEnumeration members).gaps := by
  unfold ofEnumeration
  split
  · exact List.not_mem_nil
  split
  · exact List.not_mem_nil
  · rw [gaps, mem_gapsOfAll_iff]
    rintro ⟨validator, listed, there⟩
    obtain ⟨member, _, rfl⟩ := List.mem_map.mp listed
    cases there

mutual

/-- A raw text that is shown stands in the type. -/
theorem exists_frames_of_mem_gaps {raw : RawText} :
    ∀ {node : TypeNode}, .described raw.1 ∈ (ofNode node).gaps →
      ∃ frames, node = TypeNode.plug frames raw.node
  | .primitive name, there => absurd there (described_notMem_gaps_ofPrimitive name raw.1)
  | .literal _, there => nomatch there
  | .array none, there => nomatch there
  | .array (some element), there => by
      have inElement : .described raw.1 ∈ (ofNode element).gaps := there
      obtain ⟨frames, rfl⟩ := exists_frames_of_mem_gaps inElement
      exact ⟨.element :: frames, rfl⟩
  | .tuple elements, there => by
      obtain ⟨front, frames, behind, rfl⟩ := exists_frames_of_mem_gapsOfAll there
      exact ⟨.item front behind :: frames, rfl⟩
  | .union members, there => by
      obtain ⟨front, frames, behind, rfl⟩ :=
        exists_frames_of_mem_gapsOfAll (gaps_ofUnion_subset members (ofNodes members) there)
      exact ⟨.alternative front behind :: frames, rfl⟩
  | .intersection members, there => by
      rw [ofNode, gaps_all] at there
      obtain ⟨front, frames, behind, rfl⟩ := exists_frames_of_mem_gapsOfAll there
      exact ⟨.conjunct front behind :: frames, rfl⟩
  | .object properties objectName, there => by
      obtain ⟨front, name, frames, marked, behind, rfl⟩ := exists_frames_of_mem_gapsOfFields there
      exact ⟨.property front name marked behind objectName :: frames, rfl⟩
  | .reference _, there => nomatch there
  | .enumeration members _, there =>
      absurd there (described_notMem_gaps_ofEnumeration members raw.1)
  | .record (some key) (some content), there => by
      rcases List.mem_append.mp there with inKey | inContent
      · obtain ⟨frames, rfl⟩ := exists_frames_of_mem_gaps inKey
        exact ⟨.recordKey content :: frames, rfl⟩
      · obtain ⟨frames, rfl⟩ := exists_frames_of_mem_gaps inContent
        exact ⟨.recordContent key :: frames, rfl⟩
  | .record none _, there => nomatch there
  | .record (some _) none, there => nomatch there
  | .function, there => by simp [ofNode, gaps] at there
  | .unknown rawText, there => by
      rw [ofNode, ofRawText.eq_def] at there
      split at there
      · cases there
      · cases there
      · obtain same := Gap.described.inj (List.mem_singleton.mp there)
        exact ⟨[], by rw [← same]; rfl⟩

theorem exists_frames_of_mem_gapsOfAll {raw : RawText} :
    ∀ {nodes : List TypeNode}, .described raw.1 ∈ gapsOfAll (ofNodes nodes) →
      ∃ front frames behind, nodes = front ++ TypeNode.plug frames raw.node :: behind
  | node :: rest, there => by
      rcases List.mem_append.mp there with here | later
      · obtain ⟨frames, rfl⟩ := exists_frames_of_mem_gaps here
        exact ⟨[], frames, rest, rfl⟩
      · obtain ⟨front, frames, behind, rfl⟩ := exists_frames_of_mem_gapsOfAll later
        exact ⟨node :: front, frames, behind, rfl⟩

theorem exists_frames_of_mem_gapsOfFields {raw : RawText} :
    ∀ {properties : List Property}, .described raw.1 ∈ gapsOfFields (ofProperties properties) →
      ∃ front name frames marked behind,
        properties = front ++ ⟨name, TypeNode.plug frames raw.node, marked⟩ :: behind
  | ⟨name, type, marked⟩ :: rest, there => by
      rcases List.mem_append.mp there with here | later
      · have inType : .described raw.1 ∈ (ofNode type).gaps := by
          cases marked with
          | false => exact here
          | true => simpa using here
        obtain ⟨frames, rfl⟩ := exists_frames_of_mem_gaps inType
        exact ⟨[], name, frames, marked, rest, rfl⟩
      · obtain ⟨front, otherName, frames, otherMarked, behind, rfl⟩ :=
          exists_frames_of_mem_gapsOfFields later
        exact ⟨⟨name, type, marked⟩ :: front, otherName, frames, otherMarked, behind, rfl⟩

end

/-- The raw texts that a validator shows are those that stand somewhere in the type. -/
theorem described_mem_gaps_iff {node : TypeNode} {raw : RawText} :
    .described raw.1 ∈ (ofNode node).gaps ↔ ∃ frames, node = TypeNode.plug frames raw.node := by
  constructor
  · exact exists_frames_of_mem_gaps
  · rintro ⟨frames, rfl⟩
    obtain ⟨outer, _, equal⟩ := exists_frames_ofNode frames
    rw [equal]
    exact gaps_subset_gaps_plug outer (ofRaw raw) List.mem_cons_self

end Validator

end TypeScaffold
