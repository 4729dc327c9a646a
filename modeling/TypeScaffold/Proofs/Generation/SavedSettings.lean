import TypeScaffold.Proofs.Json.Reader
import TypeScaffold.Proofs.Text.Utf8
import TypeScaffold.Proofs.Validation.Reading
import TypeScaffold.Settings

/-!
# Saved settings

Settings are saved as a value without numbers, whose text has no line ends but line feeds. So the
file is read as the text that was written, the text as the value, and the value as the settings.
-/

namespace TypeScaffold

open Validation

/-! ## Line ends -/

theorem Text.normalizeLineEnds_of_notMem : ∀ {chars : List Char}, '\r' ∉ chars →
    normalizeLineEnds chars = chars
  | [], _ => rfl
  | c :: rest, absent => by
      have other : c ≠ '\r' := fun same => absent (same ▸ List.mem_cons_self)
      have absentLater : '\r' ∉ rest := fun there => absent (List.mem_cons_of_mem c there)
      rw [normalizeLineEnds, if_neg other, normalizeLineEnds_of_notMem absentLater]
      intro others same _
      exact other same

theorem Json.IsLaidOut.normalizeLineEnds {text : String} (laidOut : IsLaidOut text) :
    Text.normalizeLineEnds text.toList = text.toList := by
  apply Text.normalizeLineEnds_of_notMem
  intro there
  exact absurd (laidOut '\r' there) (by decide)

theorem ArtifactKind.decode_name (kind : ArtifactKind) : decode (.text kind.name) = .ok kind := by
  cases kind <;> decide

namespace Settings

/-! ## The value of settings -/

theorem decode_eq_ok_iff {json : Json} {settings : Settings} :
    decode json = .ok settings ↔
      ∃ members, json = .object members ∧
        withDefault standard.persist "persist" members readBoolean = .ok settings.persist ∧
        withDefault standard.storageKey "storage_key" members readOptionalText =
          .ok settings.storageKey ∧
        withDefault standard.submitLabel "submit_label" members readText =
          .ok settings.submitLabel ∧
        withDefault standard.cancelLabel "cancel_label" members readText =
          .ok settings.cancelLabel ∧
        withDefault standard.targets "targets" members (readList .notList ArtifactKind.decode) =
          .ok settings.targets := by
  simp only [decode, Checked.bind_eq_ok_iff, readRecord_eq_ok_iff]
  constructor
  · rintro ⟨members, isObject, persist, readPersist, storageKey, readKey, submitLabel, readSubmit,
      cancelLabel, readCancel, targets, readTargets, made⟩
    cases made
    exact ⟨members, isObject, readPersist, readKey, readSubmit, readCancel, readTargets⟩
  · rintro ⟨members, isObject, readPersist, readKey, readSubmit, readCancel, readTargets⟩
    exact ⟨members, isObject, _, readPersist, _, readKey, _, readSubmit, _, readCancel, _,
      readTargets, rfl⟩

theorem decode_encode (settings : Settings) : decode settings.encode = .ok settings := by
  have targets := forall₂_map_written ArtifactKind.decode_name settings.targets
  apply decode_eq_ok_iff.mpr
  exact ⟨_, rfl, withDefault_written rfl rfl, withDefault_writtenText rfl,
    withDefault_written rfl rfl, withDefault_written rfl rfl, withDefault_writtenList rfl targets⟩

/-- The kinds are written as texts. -/
private theorem of_mem_targets {targets : List ArtifactKind} {item : Json}
    (member : item ∈ targets.map (fun kind => Json.text kind.name)) :
    item.IsNumberless ∧ item.HasDistinctNames ∧ item.nesting + 1 ≤ 1 := by
  obtain ⟨kind, _, rfl⟩ := List.mem_map.mp member
  exact ⟨trivial, trivial, Nat.le_refl 1⟩

theorem isNumberless_encode (settings : Settings) : settings.encode.IsNumberless := by
  have key : (Json.ofText? settings.storageKey).IsNumberless := by
    cases settings.storageKey <;> trivial
  have targets : Json.AreNumberless (settings.targets.map (fun kind => .text kind.name)) :=
    Json.areNumberless_iff.mpr (fun _ member => (of_mem_targets member).1)
  exact ⟨trivial, key, trivial, trivial, targets, trivial⟩

theorem hasDistinctNames_encode (settings : Settings) : settings.encode.HasDistinctNames := by
  have names : ["persist", "storage_key", "submit_label", "cancel_label", "targets"].Nodup := by
    decide
  have key : (Json.ofText? settings.storageKey).HasDistinctNames := by
    cases settings.storageKey <;> trivial
  have targets : Json.HaveDistinctNames (settings.targets.map (fun kind => .text kind.name)) :=
    Json.haveDistinctNames_iff.mpr (fun _ member => (of_mem_targets member).2.1)
  exact ⟨names, trivial, key, trivial, trivial, targets, trivial⟩

theorem nesting_encode_le (settings : Settings) : settings.encode.nesting ≤ 2 := by
  have key : (Json.ofText? settings.storageKey).nesting = 0 := by
    cases settings.storageKey <;> rfl
  have targets : Json.nestingOfItems (settings.targets.map (fun kind => .text kind.name)) ≤ 1 :=
    Json.nestingOfItems_le_iff.mpr (fun _ member => (of_mem_targets member).2.2)
  simp only [encode, Json.nesting, Json.nestingOfMembers, key]
  omega

/-! ## The file -/

/-- The text that is saved is read as the value of the settings. -/
theorem readSettings_save (settings : Settings) :
    Json.readSettings settings.save = .ok settings.encode := by
  have room : Json.HasRoom .settings [] settings.encode.nesting := by
    intro limit limited
    obtain rfl := Option.some.inj limited
    have shallow := settings.nesting_encode_le
    simp only [List.length_nil]
    omega
  rw [Json.readSettings, save,
    Json.read_pretty settings.isNumberless_encode settings.hasDistinctNames_encode room]
  rfl

/-- The file that settings are saved to, in UTF-8, is decoded, and what is loaded from it are the
settings, whatever texts and kinds they have. -/
theorem saved_file_loads (settings : Settings) :
    ∃ text, Text.Utf8.decode settings.save.toUTF8.data.toList = .ok text ∧
      load text = .ok settings := by
  refine ⟨settings.save, ?_, ?_⟩
  · rw [Text.Utf8.decode_eq_ok_iff]
    exact ByteArray.ext (Array.toList_inj.mp List.toList_data_toByteArray)
  · have laidOut : Json.IsLaidOut settings.save :=
      Json.isLaidOut_prettyAt 0 settings.encode settings.isNumberless_encode
    rw [load, laidOut.normalizeLineEnds, String.ofList_toList, readSettings_save]
    dsimp only
    rw [decode_encode]
    rfl

end Settings

end TypeScaffold
