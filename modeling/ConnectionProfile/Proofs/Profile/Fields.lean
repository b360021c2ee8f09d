import ConnectionProfile.Proofs.Overrides.Merged
import ConnectionProfile.Proofs.Profile.Decoding

/-!
# Documents that decode

What a document has to hold under each key to be decoded, and what it is decoded to. Each check is
read as the rule that it decides, in terms of `stored`, so a key that is absent and one that holds
null need not be told apart.
-/

namespace ConnectionProfile

open Overrides (stored)

variable {fields entries : List Entry}

-- ---------------------------------------------------------------------------
-- Fields
-- ---------------------------------------------------------------------------

namespace Field

/-- No required text is null. -/
theorem required_text_ok {key u : Text} :
    required text (Entries.get? key fields) = .ok u ↔ text (stored key fields) = .ok u := by
  rw [stored]
  cases Entries.get? key fields with
  | none => simp [required, text]
  | some v => exact Iff.rfl

theorem optional_text (key : Text) :
    optional text (Entries.get? key fields) = optional text (some (stored key fields)) := by
  rw [stored]
  cases Entries.get? key fields <;> rfl

theorem ne_null_of_text_ok {v : Value} {u : Text} (h : text v = .ok u) : v ≠ .null := by
  rintro rfl
  cases h

end Field

namespace Credentials

theorem require_ok {field : FieldName} {v : Value} :
    (require field fields).result = .ok v ↔ Entries.get? field.key fields = some v := by
  unfold require
  cases Entries.get? field.key fields with
  | none => simp only [Logged.bind_result_ok, Logged.fail_result_ok, and_false, exists_false,
      reduceCtorEq]
  | some w => simp only [Logged.pure_result_ok, Option.some.injEq]

theorem check_ok_iff {field : FieldName → Option Value} {c : Credentials} :
    check field = .ok c ↔ ∃ u h a d r, Field.required Field.text (field .userId) = .ok u ∧
      Field.required Field.text (field .homeServer) = .ok h ∧
      Field.required Field.text (field .accessToken) = .ok a ∧
      Field.optional Field.text (field .deviceId) = .ok d ∧
      Field.optional Field.text (field .refreshToken) = .ok r ∧ c = ofTexts u h a d r := by
  simp only [check]
  constructor
  · intro hc
    split at hc
    · rename_i u h a d r hu hh ha hd hr
      exact ⟨u, h, a, d, r, hu, hh, ha, hd, hr, (Except.ok.inj hc).symm⟩
    · cases hc
  · rintro ⟨u, h, a, d, r, hu, hh, ha, hd, hr, rfl⟩
    simp only [hu, hh, ha, hd, hr]

/-- Credentials are checked field by field. -/
theorem ofFields_ok_iff {c : Credentials} : ofFields fields = .ok c ↔ ∃ u h a d r,
      Field.text (stored FieldName.userId.key fields) = .ok u ∧
      Field.text (stored FieldName.homeServer.key fields) = .ok h ∧
      Field.text (stored FieldName.accessToken.key fields) = .ok a ∧
      Field.optional Field.text (some (stored FieldName.deviceId.key fields)) = .ok d ∧
      Field.optional Field.text (some (stored FieldName.refreshToken.key fields)) = .ok r ∧
      c = ofTexts u h a d r := by
  simp only [ofFields, check_ok_iff, Field.required_text_ok, Field.optional_text]

/-- Credentials decode field by field. -/
theorem decode_ok_iff {c : Credentials} :
    (decode (.map fields)).result = .ok c ↔ ∃ u h a d r,
      Field.text (stored FieldName.userId.key fields) = .ok u ∧
      Field.text (stored FieldName.homeServer.key fields) = .ok h ∧
      Field.text (stored FieldName.accessToken.key fields) = .ok a ∧
      Field.optional Field.text (some (stored FieldName.deviceId.key fields)) = .ok d ∧
      Field.optional Field.text (some (stored FieldName.refreshToken.key fields)) = .ok r ∧
      c = ofTexts u h a d r := by
  simp only [decode, Logged.bind_result_ok, require_ok]
  constructor
  · rintro ⟨_, -, _, -, _, -, h⟩
    split at h
    · cases h
      exact ofFields_ok_iff.1 ‹_›
    · cases h
  · intro h
    have hc := ofFields_ok_iff.2 h
    obtain ⟨u, h, a, d, r, hu, hh, ha, -⟩ := h
    refine ⟨_, Entries.get?_of_stored rfl (Field.ne_null_of_text_ok hu), _,
      Entries.get?_of_stored rfl (Field.ne_null_of_text_ok hh), _,
      Entries.get?_of_stored rfl (Field.ne_null_of_text_ok ha), ?_⟩
    rw [hc]
    rfl

end Credentials

-- ---------------------------------------------------------------------------
-- Keys of a profile
-- ---------------------------------------------------------------------------

namespace Profile

theorem decodeServer_ok {s : Text} :
    (decodeServer entries).result = .ok s ↔ stored serverKey entries = .text s := by
  unfold decodeServer stored
  cases Entries.get? serverKey entries with
  | none => simp [Logged.bind_result_ok]
  | some v => cases v <;> simp

theorem decodeIdentity_ok {i : Option Text} :
    (decodeIdentity entries).result = .ok i ↔
      stored identityKey entries = .ofTextOption i := by
  rw [decodeIdentity, Entries.find?_eq]
  generalize stored identityKey entries = v
  cases v <;> cases i <;> simp [Value.ofTextOption]

theorem decodeCredentials_ok {c : Option Credentials} :
    (decodeCredentials entries).result = .ok c ↔
      (stored credentialsKey entries = .null ∧ c = none) ∨
        ∃ fields d, stored credentialsKey entries = .map fields ∧
          (Credentials.decode (.map fields)).result = .ok d ∧ c = some d := by
  rw [decodeCredentials, Entries.find?_eq]
  generalize stored credentialsKey entries = v
  cases v with
  | map fields =>
    simp only [reduceCtorEq, if_false, Logged.bind_result_ok, Logged.mapError_ok,
      Logged.pure_result_ok, false_and, false_or, Value.map.injEq]
    constructor
    · rintro ⟨d, hd, rfl⟩
      exact ⟨fields, d, rfl, hd, rfl⟩
    · rintro ⟨_, d, rfl, hd, rfl⟩
      exact ⟨d, hd, rfl⟩
  | null => simp [eq_comm]
  | _ => simp

theorem decodePins_ok {pins : List Pin} :
    (decodePins entries).result = .ok pins ↔
      (stored pinsKey entries = .null ∧ pins = []) ∨
        ∃ vs, stored pinsKey entries = .list vs ∧ (decodePinList vs).result = .ok pins := by
  rw [decodePins, Entries.find?_eq]
  generalize stored pinsKey entries = v
  cases v with
  | list vs => simp
  | null => simp [eq_comm]
  | _ => simp

/-- A document decodes key by key, and then its addresses have to make a profile. -/
theorem decode_ok_iff {p : Profile} :
    (decode (.map entries)).result = .ok p ↔ ∃ s i c pins,
      stored serverKey entries = .text s ∧ stored identityKey entries = .ofTextOption i ∧
      (decodeCredentials entries).result = .ok c ∧ (decodePins entries).result = .ok pins ∧
      (create (.text s) (.ofTextOption i) c pins).result = .ok p := by
  simp only [decode, decodeParts, requireMapping, Logged.pure_bind, Logged.bind_result_ok,
    Logged.mapError_ok, Logged.pure_result_ok, decodeServer_ok, decodeIdentity_ok]
  constructor
  · rintro ⟨_, ⟨s, hs, i, hi, c, hc, pins, hp, rfl⟩, h⟩
    exact ⟨s, i, c, pins, hs, hi, hc, hp, h⟩
  · rintro ⟨s, i, c, pins, hs, hi, hc, hp, h⟩
    exact ⟨_, ⟨s, hs, i, hi, c, hc, pins, hp, rfl⟩, h⟩

end Profile

end ConnectionProfile
