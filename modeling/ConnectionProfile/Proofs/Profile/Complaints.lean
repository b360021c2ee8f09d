import ConnectionProfile.Foreign
import ConnectionProfile.Proofs.Profile.Masked

/-!
# Complaints of failed checks

Every field of credentials is complained of by itself. Decoding tells the same of a document when its
tokens are hidden, and its foreign error is the same.
-/

namespace ConnectionProfile

open Overrides (stored)

-- ---------------------------------------------------------------------------
-- Credentials
-- ---------------------------------------------------------------------------

namespace Credentials

/-- The problem that the check of a field found, with the value that has it. -/
def complaint {α : Type} (field : FieldName) (check : Option Value → Except Fault α)
    (o : Option Value) : List (Problem × Option Value) :=
  (Field.problem field.key (check o)).map fun p => (p, o)

theorem complaint_eq {α : Type} (field : FieldName) (check : Option Value → Except Fault α)
    (fields : List Entry) : (Field.problem field.key (check (Entries.get? field.key fields))).map
        (fun p => (p, Entries.get? p.field fields)) =
      complaint field check (Entries.get? field.key fields) := by
  rw [complaint]
  cases check (Entries.get? field.key fields) <;> rfl

/-- Every field is complained of by itself. -/
theorem complaints_eq (fields : List Entry) : complaints fields =
    ([.userId, .homeServer, .accessToken].flatMap fun field =>
      complaint field (Field.required Field.text) (Entries.get? field.key fields)) ++
    [.deviceId, .refreshToken].flatMap fun field =>
      complaint field (Field.optional Field.text) (Entries.get? field.key fields) := by
  simp only [List.flatMap_cons, List.flatMap_nil, List.append_nil, complaints, ofFields, check]
  split
  · rename_i h
    split at h
    · rename_i hu hh ha hd hr
      simp [complaint, hu, hh, ha, hd, hr, Field.problem]
    · cases h
  · rename_i h
    split at h
    · cases h
    · cases h
      simp only [List.map_append, complaint_eq, List.append_assoc]

theorem told_maskTokens (v : Value) : told (maskTokens v) = told v := by
  cases v with
  | map fields =>
    have hd : decode (.map (maskFields fields)) = (decode (.map fields)).map masked :=
      decode_maskTokens (.map fields)
    change told (.map (maskFields fields)) = _
    rw [told, told, hd, complaints_maskFields, Logged.map]
    cases (decode (.map fields)).result <;> rfl
  | _ => rfl

theorem foreign?_maskTokens (v : Value) : foreign? (maskTokens v) = foreign? v := by
  cases v with
  | map fields =>
    have hd : decode (.map (maskFields fields)) = (decode (.map fields)).map masked :=
      decode_maskTokens (.map fields)
    change foreign? (.map (maskFields fields)) = _
    rw [foreign?, foreign?, hd, complaints_maskFields, Logged.map]
    cases (decode (.map fields)).result <;> rfl
  | _ => rfl

end Credentials

-- ---------------------------------------------------------------------------
-- Profiles
-- ---------------------------------------------------------------------------

namespace Profile

theorem decodeParts_maskEntries (entries : List Entry) :
    decodeParts (.map (maskEntries entries)) = (decodeParts (.map entries)).map Parts.masked :=
  decodeParts_maskTokens (.map entries)

theorem stored_credentials_maskEntries (entries : List Entry) :
    stored credentialsKey (maskEntries entries) =
      Credentials.maskTokens (stored credentialsKey entries) := by
  have hk : isCredentialsKey (.text credentialsKey) = true := rfl
  rw [stored, stored, maskEntries, Entries.get?_mapUnder_of_pos hk]
  cases Entries.get? credentialsKey entries <;> rfl

theorem stored_pins_maskEntries (entries : List Entry) :
    stored pinsKey (maskEntries entries) = stored pinsKey entries := by
  have hk : isCredentialsKey (.text pinsKey) = false := rfl
  rw [stored, stored, maskEntries, Entries.get?_mapUnder_of_neg hk]

theorem told_maskTokens (v : Value) : told (maskTokens v) = told v := by
  cases v with
  | map entries =>
    change told (.map (maskEntries entries)) = _
    rw [told, told, decodeParts_maskEntries, stored_credentials_maskEntries,
      stored_pins_maskEntries, Credentials.told_maskTokens, Logged.map]
    cases (decodeParts (.map entries)).result <;> rfl
  | _ => rfl

theorem told_congr {v w : Value} (h : maskTokens v = maskTokens w) : told v = told w := by
  rw [← told_maskTokens v, ← told_maskTokens w, h]

theorem foreign?_maskEntries (entries : List Entry) :
    foreign? (maskEntries entries) = foreign? entries := by
  rw [foreign?, foreign?, decodeParts_maskEntries, stored_credentials_maskEntries,
    stored_pins_maskEntries, Credentials.foreign?_maskTokens, Logged.map]
  cases (decodeParts (.map entries)).result <;> rfl

end Profile

end ConnectionProfile
