import ConnectionProfile.Proofs.Profile.Masked

/-!
# Overrides with hidden tokens

Where a token comes from does not matter here: overrides move tokens about and look at none of
them, so hidden tokens take the same ways (`apply_masked`).
-/

namespace ConnectionProfile

theorem Value.masked_ofTextOption (t : Option Text) :
    (ofTextOption t).masked = ofTextOption (t.map fun _ => []) := by
  cases t <;> rfl

namespace Overrides

def masked (o : Overrides) : Overrides := { o with accessToken := o.accessToken.masked }

variable {o : Overrides} {token : Option Text} {document old : List Entry}

theorem firstPresent_masked (v w : Value) :
    firstPresent [v.masked, w.masked] = (firstPresent [v, w]).masked := by
  rw [firstPresent_cons v.masked, firstPresent_cons v, firstPresent_singleton,
    firstPresent_singleton, Value.isNull_masked]
  split <;> rfl

theorem givenToken_masked :
    o.masked.givenToken (token.map fun _ => []) = (o.givenToken token).masked := by
  rw [givenToken, ← Value.masked_ofTextOption]
  exact firstPresent_masked ..

theorem keepsCredentials_masked :
    o.masked.KeepsCredentials (token.map fun _ => []) ↔ o.KeepsCredentials token := by
  simp only [KeepsCredentials, givenToken_masked, ← Value.isNull_iff, Value.isNull_masked]
  rfl

theorem storedCredentials_maskEntries :
    storedCredentials (Profile.maskEntries document) =
      Credentials.maskFields (storedCredentials document) := by
  have hk : Profile.isCredentialsKey (.text Profile.credentialsKey) = true := rfl
  rw [storedCredentials, Profile.maskEntries, Entries.get?_mapUnder_of_pos hk, storedCredentials]
  cases Entries.get? Profile.credentialsKey document with
  | none => rfl
  | some v => cases v <;> rfl

-- ---------------------------------------------------------------------------
-- Credentials that are written anew
-- ---------------------------------------------------------------------------

theorem stored_maskFields (field : Credentials.FieldName) :
    stored field.key (Credentials.maskFields old) =
      if field = .accessToken ∨ field = .refreshToken then (stored field.key old).masked
      else stored field.key old := by
  rw [stored, Credentials.get?_maskFields, stored]
  cases Entries.get? field.key old with
  | none => exact (ite_self _).symm
  | some v => rfl

theorem fieldValue_masked (accessToken homeServer : Value) (field : Credentials.FieldName) :
    o.masked.fieldValue accessToken.masked homeServer (Credentials.maskFields old) field =
      if field = .accessToken ∨ field = .refreshToken then
        (o.fieldValue accessToken homeServer old field).masked
      else o.fieldValue accessToken homeServer old field := by
  cases field with
  | accessToken =>
    simp only [fieldValue, stored_maskFields, true_or, if_true]
    exact firstPresent_masked ..
  | _ => simp [fieldValue, stored_maskFields, masked]

theorem credentials_masked (accessToken homeServer : Value) :
    o.masked.credentials accessToken.masked homeServer (Credentials.maskFields old) =
      Credentials.maskFields (o.credentials accessToken homeServer old) := by
  rw [credentials_eq_filter, credentials_eq_filter]
  refine Eq.trans ?_ (Entries.mapUnder_filter Value.isNull_masked _).symm
  rw [Entries.mapUnder, List.map_map]
  congr 1
  refine List.map_congr_left fun field _ => ?_
  simp only [Function.comp_apply, fieldValue_masked, Credentials.isTokenKey_key]

-- ---------------------------------------------------------------------------
-- Documents
-- ---------------------------------------------------------------------------

section
variable {key : Text} {v : Value} {es : List Entry}

theorem maskEntries_putText (h : Profile.isCredentialsKey (.text key) = false) :
    Profile.maskEntries (Entries.putText key v es) =
      Entries.putText key v (Profile.maskEntries es) := by
  rw [Profile.maskEntries, Entries.mapUnder_putText, h]
  rfl

theorem maskEntries_putPresent (h : Profile.isCredentialsKey (.text key) = false) :
    Profile.maskEntries (putPresent key v es) = putPresent key v (Profile.maskEntries es) := by
  unfold putPresent
  split
  · rfl
  · exact maskEntries_putText h

theorem maskEntries_putPins (pins : Option (List Pin)) :
    Profile.maskEntries (putPins pins es) = putPins pins (Profile.maskEntries es) := by
  cases pins with
  | none => rfl
  | some ps => exact maskEntries_putText rfl

end

theorem stored_maskEntries {key : Text} (h : Profile.isCredentialsKey (.text key) = false) :
    stored key (Profile.maskEntries document) = stored key document :=
  Entries.stored_mapUnder_of_neg h

theorem resolvedHomeServer_masked :
    o.masked.resolvedHomeServer (Profile.maskEntries document) = o.resolvedHomeServer document := by
  rw [resolvedHomeServer, stored_maskEntries rfl]
  rfl

theorem mergedParts_masked :
    o.masked.mergedParts (Profile.maskEntries document) =
      Profile.maskEntries (o.mergedParts document) := by
  rw [mergedParts, mergedParts, maskEntries_putPins, maskEntries_putPresent rfl,
    maskEntries_putPresent rfl, stored_maskEntries rfl, resolvedHomeServer_masked]
  rfl

/-- Hidden tokens are put where the tokens would be. -/
theorem apply_masked :
    o.masked.apply (token.map fun _ => []) (Profile.maskEntries document) =
      Profile.maskEntries (o.apply token document) := by
  rw [apply_eq, apply_eq]
  by_cases h : o.KeepsCredentials token
  · rw [if_pos (keepsCredentials_masked.2 h), if_pos h, mergedParts_masked]
  · have hk : Profile.isCredentialsKey (.text Profile.credentialsKey) = true := rfl
    rw [if_neg (mt keepsCredentials_masked.1 h), if_neg h, givenToken_masked,
      resolvedHomeServer_masked, storedCredentials_maskEntries, credentials_masked,
      mergedParts_masked, Profile.maskEntries, Profile.maskEntries, Entries.mapUnder_putText,
      if_pos hk]
    rfl

end Overrides

end ConnectionProfile
