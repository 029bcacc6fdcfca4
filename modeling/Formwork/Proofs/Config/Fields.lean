import Formwork.Config.Fields
import Formwork.Proofs.Fields.Checked

/-!
# Options that are accepted

Options are accepted when their encoding can be looked up, and only then: whatever has been read can be
(`exists_lookup_of_readFieldsBy`), and options given with all their fields are read as they are
(`readFieldsBy_toMembers`).  It follows that reading once more what has been read changes nothing.
-/

namespace Formwork.Config

variable {Codec : Type} {lookup : Text → Except Encoding.NameError Codec} {name : Text} {j : Json}
  {range : Fields.IntegerRange} {members : List (Text × Json)} {config : Config}

lemma readEncodingBy_eq_ok_iff :
    readEncodingBy lookup j = .ok name ↔ j = .text name ∧ ∃ codec, lookup name = .ok codec := by
  constructor
  · intro h
    obtain ⟨given, hgiven, hread⟩ := Except.bind_eq_ok_iff.1 h
    cases j with
    | text given =>
      cases hgiven
      cases hlookup : lookup given with
      | ok codec =>
        rw [hlookup] at hread
        cases hread
        exact ⟨rfl, codec, hlookup⟩
      | error e =>
        rw [hlookup] at hread
        cases e <;> cases hread
    | null | bool | integer | real | array | object => cases hgiven
  · rintro ⟨rfl, codec, hlookup⟩
    refine Except.bind_eq_ok_iff.2 ⟨name, rfl, ?_⟩
    rw [hlookup]
    rfl

/-- Options that have been read name an encoding that can be looked up, provided the default does. -/
lemma exists_lookup_of_readFieldsBy (hdefault : ∃ codec, lookup Config.defaultEncoding = .ok codec)
    (h : readFieldsBy lookup range members = .ok config) :
    ∃ codec, lookup config.encoding = .ok codec := by
  unfold readFieldsBy at h
  obtain ⟨⟨_, name, _⟩, hboth, rfl⟩ := Except.map_eq_ok_iff.1 h
  have hname := (Checked.both_eq_ok_iff.1 (Checked.both_eq_ok_iff.1 hboth).2).1
  show ∃ codec, lookup name = .ok codec
  rcases Fields.eq_default_or_read hname with rfl | ⟨j, hj⟩
  · exact hdefault
  · exact (readEncodingBy_eq_ok_iff.1 hj).2

/-- Options whose encoding can be looked up are read from their fields, in whatever range. -/
lemma readFieldsBy_toMembers (h : ∃ codec, lookup config.encoding = .ok codec) :
    readFieldsBy lookup range config.toMembers = .ok config := by
  have hencoding := readEncodingBy_eq_ok_iff.2 ⟨rfl, h⟩
  show (Checked.both (.ok config.indentMultiline) (Checked.both
    (Checked.under (.field _) (readEncodingBy lookup (.text config.encoding)))
    (.ok config.overwrite))).map _ = _
  rw [hencoding]
  rfl

end Formwork.Config
