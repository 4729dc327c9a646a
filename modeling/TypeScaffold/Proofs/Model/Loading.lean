import Mathlib.Tactic.ByContra
import TypeScaffold.Model.Load
import TypeScaffold.Proofs.Text.Utf8

/-!
# Refusals of a type model

A value is a model or is refused, and so is a file, under the name of where it came from: it is
missing, it is no document, or it describes no model. Only octets that are no UTF-8 are not refused
so: the fault of their encoding comes out as it is.
-/

namespace TypeScaffold

namespace Model

/-- A value describes a model, or is refused as one that does not. -/
theorem load_eq_ok_or_invalid (source : String) (json : Json) :
    (∃ model, load source json = .ok model) ∨
      ∃ fault, load source json = .error ⟨source, .invalid fault⟩ := by
  rw [load]
  cases decode json with
  | ok model => exact Or.inl ⟨model, rfl⟩
  | error fault => exact Or.inr ⟨fault, rfl⟩

/-- The document that is read from a text. -/
def document (text : String) : Except Json.DocumentFault Json :=
  Json.readDocument (String.ofList (Text.normalizeLineEnds text.toList))

section File

variable {path : String} {octets : List UInt8} {text : String}

/-- The file of a text is loaded as the document of the text. -/
theorem loadFile_of_encoding (encodes : octets.toByteArray = text.toUTF8) :
    loadFile path (some octets) =
      (match document text with
        | .error fault => .error (.load ⟨Text.Path.shortest path, .malformed fault⟩)
        | .ok json => (load (Text.Path.shortest path) json).mapError .load) := by
  have decoded := Text.Utf8.decode_eq_ok_iff.mpr encodes
  rw [loadFile, decoded]
  dsimp only
  rw [loadText, document]
  cases Json.readDocument (String.ofList (Text.normalizeLineEnds text.toList)) with
  | error fault => rfl
  | ok json => rfl

theorem loadFile_malformed_iff (encodes : octets.toByteArray = text.toUTF8)
    (fault : Json.DocumentFault) :
    loadFile path (some octets) = .error (.load ⟨Text.Path.shortest path, .malformed fault⟩) ↔
      document text = .error fault := by
  rw [loadFile_of_encoding encodes]
  cases document text with
  | error other => simp
  | ok json =>
      rcases load_eq_ok_or_invalid (Text.Path.shortest path) json with
        ⟨model, loaded⟩ | ⟨other, refused⟩
      · simp [loaded, Except.mapError]
      · simp [refused, Except.mapError]

theorem loadFile_invalid_iff (encodes : octets.toByteArray = text.toUTF8)
    (fault : Validation.Fault) :
    loadFile path (some octets) = .error (.load ⟨Text.Path.shortest path, .invalid fault⟩) ↔
      ∃ json, document text = .ok json ∧ decode json = .error fault := by
  rw [loadFile_of_encoding encodes]
  cases document text with
  | error other => simp
  | ok json => cases described : decode json <;> simp [load, described, Except.mapError]

theorem loadFile_ok_iff (encodes : octets.toByteArray = text.toUTF8) (model : Model) :
    loadFile path (some octets) = .ok model ↔
      ∃ json, document text = .ok json ∧ decode json = .ok model := by
  rw [loadFile_of_encoding encodes]
  cases document text with
  | error other => simp
  | ok json => cases described : decode json <;> simp [load, described, Except.mapError]

/-- What a file with a text in it comes to: a model, or one of two refusals. -/
theorem loadFile_cases (path : String) (encodes : octets.toByteArray = text.toUTF8) :
    (∃ model, loadFile path (some octets) = .ok model) ∨
      ∃ cause, loadFile path (some octets) = .error (.load ⟨Text.Path.shortest path, cause⟩) := by
  cases read : document text with
  | error fault => exact Or.inr ⟨_, (loadFile_malformed_iff encodes fault).mpr read⟩
  | ok json =>
      cases described : decode json with
      | error fault =>
          exact Or.inr ⟨_, (loadFile_invalid_iff encodes fault).mpr ⟨json, read, described⟩⟩
      | ok model =>
          exact Or.inl ⟨model, (loadFile_ok_iff encodes model).mpr ⟨json, read, described⟩⟩

/-- The fault of an encoding comes out exactly for octets that are no UTF-8. -/
theorem loadFile_encoding_iff (path : String) (content : Option (List UInt8)) :
    (∃ fault, loadFile path content = .error (.encoding fault)) ↔
      ∃ octets, content = some octets ∧ ¬ octets.toByteArray.IsValidUTF8 := by
  cases content with
  | none => simp [loadFile]
  | some octets =>
      have valid : (∃ text, Text.Utf8.decode octets = .ok text) ↔
          octets.toByteArray.IsValidUTF8 := Text.Utf8.exists_decode_eq_ok_iff
      cases decoded : Text.Utf8.decode octets with
      | error fault =>
          have noText : ¬ octets.toByteArray.IsValidUTF8 := by
            rw [← valid, decoded]
            rintro ⟨text, equal⟩
            cases equal
          exact iff_of_true ⟨fault, by rw [loadFile, decoded]⟩ ⟨octets, rfl, noText⟩
      | ok text =>
          have isText : octets.toByteArray.IsValidUTF8 := valid.mp ⟨text, decoded⟩
          refine iff_of_false ?_ ?_
          · rintro ⟨fault, escaped⟩
            rcases loadFile_cases path (Text.Utf8.decode_eq_ok_iff.mp decoded) with
              ⟨model, loaded⟩ | ⟨cause, refused⟩
            · rw [loaded] at escaped
              cases escaped
            · rw [refused] at escaped
              cases escaped
          · rintro ⟨other, equal, noText⟩
            cases equal
            exact noText isText

theorem loadFile_none :
    loadFile path none = .error (.load ⟨Text.Path.shortest path, .fileNotFound⟩) :=
  rfl

/-- A model or a refusal comes out exactly if no octets are there that are no UTF-8. -/
theorem loadFile_cases_iff (path : String) (content : Option (List UInt8)) :
    ((∃ model, loadFile path content = .ok model) ∨
        ∃ cause, loadFile path content = .error (.load ⟨Text.Path.shortest path, cause⟩)) ↔
      ∀ octets, content = some octets → octets.toByteArray.IsValidUTF8 := by
  constructor
  · rintro comes octets rfl
    by_contra noText
    obtain ⟨fault, escaped⟩ := (loadFile_encoding_iff path _).mpr ⟨octets, rfl, noText⟩
    rw [escaped] at comes
    rcases comes with ⟨model, loaded⟩ | ⟨cause, refused⟩
    · cases loaded
    · cases refused
  · intro valid
    cases content with
    | none => exact Or.inr ⟨.fileNotFound, loadFile_none⟩
    | some octets =>
        obtain ⟨text, decoded⟩ := Text.Utf8.exists_decode_eq_ok_iff.mpr (valid octets rfl)
        exact loadFile_cases path (Text.Utf8.decode_eq_ok_iff.mp decoded)

theorem loadFile_fileNotFound_iff (path : String) (content : Option (List UInt8)) :
    loadFile path content = .error (.load ⟨Text.Path.shortest path, .fileNotFound⟩) ↔
      content = none := by
  cases content with
  | none => exact iff_of_true loadFile_none rfl
  | some octets =>
      refine iff_of_false (fun missing => ?_) (by simp)
      unfold loadFile at missing
      dsimp only at missing
      split at missing
      · cases missing
      · rw [loadText] at missing
        split at missing
        · cases missing
        · rcases load_eq_ok_or_invalid (Text.Path.shortest path) ‹_› with
            ⟨model, loaded⟩ | ⟨fault, refused⟩
          · rw [loaded] at missing
            cases missing
          · rw [refused] at missing
            cases missing

end File

/-- A value is loaded or refused. So is a file, unless it holds octets that are no UTF-8, and then
the fault of the encoding comes out instead. A refusal names the source and tells whether the file
is missing, the text is no document, or the document describes no model. -/
theorem load_refusals (path : String) (content : Option (List UInt8)) :
    (∀ json, (∃ model, load valueSource json = .ok model) ∨
      ∃ fault, load valueSource json = .error ⟨valueSource, .invalid fault⟩) ∧
    ((∃ fault, loadFile path content = .error (.encoding fault)) ↔
      ∃ octets, content = some octets ∧ ¬ octets.toByteArray.IsValidUTF8) ∧
    (((∃ model, loadFile path content = .ok model) ∨
        ∃ cause, loadFile path content = .error (.load ⟨Text.Path.shortest path, cause⟩)) ↔
      ∀ octets, content = some octets → octets.toByteArray.IsValidUTF8) ∧
    (loadFile path content = .error (.load ⟨Text.Path.shortest path, .fileNotFound⟩) ↔
      content = none) ∧
    ∀ octets text, content = some octets → octets.toByteArray = String.toUTF8 text →
      (∀ fault,
        loadFile path content = .error (.load ⟨Text.Path.shortest path, .malformed fault⟩) ↔
          document text = .error fault) ∧
      (∀ fault,
        loadFile path content = .error (.load ⟨Text.Path.shortest path, .invalid fault⟩) ↔
          ∃ json, document text = .ok json ∧ decode json = .error fault) ∧
      ∀ model, loadFile path content = .ok model ↔
        ∃ json, document text = .ok json ∧ decode json = .ok model := by
  refine ⟨load_eq_ok_or_invalid valueSource, loadFile_encoding_iff path content,
    loadFile_cases_iff path content, loadFile_fileNotFound_iff path content, ?_⟩
  rintro octets text rfl encodes
  exact ⟨loadFile_malformed_iff encodes, loadFile_invalid_iff encodes, loadFile_ok_iff encodes⟩

/-- The octets of an empty object describe a model without declarations. -/
theorem empty_model_loads :
    [0x7B, 0x7D].toByteArray = String.toUTF8 r"{}" ∧
      loadFile "model.json" (some [0x7B, 0x7D]) = .ok ⟨[], []⟩ := by
  have encodes : [0x7B, 0x7D].toByteArray = String.toUTF8 r"{}" :=
    Text.Utf8.decode_eq_ok_iff.mp rfl
  have lexed : Json.lexemes .document 0 ['{', '}'] =
      [⟨.openObject, 0⟩, ⟨.closeObject, 1⟩] := by
    simp [Json.lexemes, Json.isSpace, Json.scanToken, Json.Token.isBroken]
  have chars : (String.ofList (Text.normalizeLineEnds r"{}".toList)).toList = ['{', '}'] := by
    rw [String.toList_ofList]
    rfl
  have read : document r"{}" = .ok (.object []) := by
    rw [document, Json.readDocument, chars, if_neg (by decide), Json.read, lexed]
    rfl
  obtain ⟨_, _, _, _, described⟩ := load_refusals "model.json" (some [0x7B, 0x7D])
  obtain ⟨_, _, loaded⟩ := described _ _ rfl encodes
  exact ⟨encodes, (loaded _).mpr ⟨.object [], read, rfl⟩⟩

/-- An octet that begins no character comes out as a fault of the encoding. -/
theorem stray_octet_not_refused :
    (∃ fault, loadFile "model.json" (some [0xFF]) = .error (.encoding fault)) ∧
      ¬ ((∃ model, loadFile "model.json" (some [0xFF]) = .ok model) ∨
        ∃ error, loadFile "model.json" (some [0xFF]) = .error (.load error)) := by
  have escaped : loadFile "model.json" (some [0xFF]) =
      .error (.encoding ⟨.invalidStart, 0xFF, 0, 1⟩) := rfl
  refine ⟨⟨_, escaped⟩, ?_⟩
  rw [escaped]
  rintro (⟨model, loaded⟩ | ⟨error, refused⟩)
  · cases loaded
  · cases refused

end Model

end TypeScaffold
