import ConnectionProfile.Proofs.Overrides

/-!
# Merged documents

What a document holds under each key after overrides were put over it. A key that is absent and one
that holds null are not told apart here: `stored` is null for both.
-/

namespace ConnectionProfile

-- ---------------------------------------------------------------------------
-- Values under a key
-- ---------------------------------------------------------------------------

namespace Value

theorem isNull_iff {v : Value} : v.isNull = true ↔ v = .null := by
  cases v <;> simp [isNull]

theorem isNull_eq_false_iff {v : Value} : v.isNull = false ↔ v ≠ .null := by
  cases v <;> simp [isNull]

instance (v : Value) : Decidable (v = .null) := decidable_of_iff _ isNull_iff

/-- The entries of a mapping. -/
def entries : Value → List Entry
  | .map entries => entries
  | _ => []

end Value

namespace Entries

open Overrides (stored)

variable {key k : Text} {v : Value} {es : List Entry}

theorem get?_of_stored (h : stored key es = v) (hv : v ≠ .null) : get? key es = some v := by
  unfold stored at h
  cases hg : get? key es with
  | none =>
    rw [hg] at h
    exact absurd h.symm hv
  | some w =>
    rw [hg] at h
    exact congrArg some h

theorem stored_of_get? (h : get? key es = some v) : stored key es = v := by
  rw [stored, h, Option.getD_some]

theorem find?_eq :
    find? key es = if stored key es = .null then none else some (stored key es) := by
  unfold find? stored
  cases get? key es with
  | none => rfl
  | some w => cases w <;> simp

theorem stored_putText : stored key (putText k v es) = if k = key then v else stored key es := by
  rw [stored, get?_putText]
  split <;> rfl

theorem get?_eq_none_of_notMem (h : .text key ∉ keys es) : get? key es = none := by
  rw [get?_eq_under?]
  exact under?_eq_none.2 h

theorem mem_keys_of_get? (h : get? key es = some v) : .text key ∈ keys es := by
  refine Classical.byContradiction fun hn => ?_
  rw [get?_eq_none_of_notMem hn] at h
  cases h

theorem get?_of_mem (hn : (keys es).Nodup) (hm : (.text key, v) ∈ es) : get? key es = some v := by
  induction es with
  | nil => cases hm
  | cons e es ih =>
    obtain ⟨l, w⟩ := e
    obtain ⟨hl, hes⟩ := List.nodup_cons.1 hn
    obtain h | h := List.mem_cons.1 hm
    · cases h
      exact if_pos rfl
    · have hne : l ≠ .text key := by
        rintro rfl
        exact hl (List.mem_map.2 ⟨_, h, rfl⟩)
      cases l with
      | text t =>
        rw [get?, if_neg fun ht => hne (by rw [ht])]
        exact ih hes h
      | _ => exact ih hes h

/-- Leaving nulls out changes no value, if no key is there twice. -/
theorem stored_filter (hn : (keys es).Nodup) :
    stored key (es.filter fun e => !e.2.isNull) = stored key es := by
  rw [stored, stored, get?_eq_under?, get?_eq_under?, under?_filter (fun v => !v.isNull) hn]
  cases under? key es with
  | none => rfl
  | some v =>
    rw [Option.filter_some, Option.getD_some]
    split
    case isTrue => rfl
    case isFalse hv => exact (Value.isNull_iff.1 (by simpa using hv)).symm

end Entries

namespace Overrides

theorem firstPresent_cons (v : Value) (vs : List Value) :
    firstPresent (v :: vs) = if v.isNull then firstPresent vs else v := by
  cases v <;> rfl

theorem firstPresent_eq_null {vs : List Value} :
    firstPresent vs = .null ↔ ∀ v ∈ vs, v = .null := by
  induction vs with
  | nil => simp [firstPresent]
  | cons v vs ih =>
    rw [firstPresent_cons, List.forall_mem_cons, ← ih]
    cases hv : v.isNull with
    | true => simp [Value.isNull_iff.1 hv]
    | false => simp [Value.isNull_eq_false_iff.1 hv]

-- ---------------------------------------------------------------------------
-- The four keys
-- ---------------------------------------------------------------------------

variable {o : Overrides} {token : Option Text} {document : List Entry}

theorem stored_putPresent (key k : Text) (v : Value) (es : List Entry) :
    stored key (putPresent k v es) = if k = key ∧ v ≠ .null then v else stored key es := by
  unfold putPresent
  cases hv : v.isNull with
  | true => rw [if_pos rfl, if_neg fun h => h.2 (Value.isNull_iff.1 hv)]
  | false =>
    rw [if_neg Bool.false_ne_true, Entries.stored_putText]
    simp only [ne_eq, Value.isNull_eq_false_iff.1 hv, not_false_eq_true, and_true]

theorem stored_putPresent_of_ne {key k : Text} (hk : k ≠ key) (v : Value) (es : List Entry) :
    stored key (putPresent k v es) = stored key es := by
  rw [stored_putPresent, if_neg fun h => hk h.1]

/-- If nothing is put, because neither value is present, then nothing is stored. -/
theorem stored_putPresent_first (key : Text) (v : Value) (es : List Entry) :
    stored key (putPresent key (firstPresent [v, stored key es]) es) =
      firstPresent [v, stored key es] := by
  rw [stored_putPresent]
  by_cases hn : firstPresent [v, stored key es] = .null
  · rw [if_neg fun h => h.2 hn, hn]
    exact firstPresent_eq_null.1 hn _ (by simp)
  · rw [if_pos ⟨rfl, hn⟩]

theorem stored_putPins (pins : Option (List Pin)) {key : Text} (es : List Entry)
    (hk : Profile.pinsKey ≠ key) : stored key (putPins pins es) = stored key es := by
  cases pins with
  | none => rfl
  | some ps => rw [putPins, Entries.stored_putText, if_neg hk]

/-- The token that is given by the arguments or by the environment. -/
def givenToken (o : Overrides) (token : Option Text) : Value :=
  firstPresent [o.accessToken, .ofTextOption token]

/-- Stored credentials are kept as they are when neither a user nor a token is given. -/
def KeepsCredentials (o : Overrides) (token : Option Text) : Prop :=
  o.givenToken token = .null ∧ o.userId = .null

instance (o : Overrides) (token : Option Text) : Decidable (o.KeepsCredentials token) :=
  inferInstanceAs (Decidable (_ ∧ _))

/-- The home server that the credentials are for if they do not say. -/
def resolvedHomeServer (o : Overrides) (document : List Entry) : Value :=
  firstPresent [o.homeServer, stored Profile.serverKey document]

/-- The document with the overrides, apart from the credentials. -/
def mergedParts (o : Overrides) (document : List Entry) : List Entry :=
  putPins o.pins (putPresent Profile.identityKey
    (firstPresent [o.identityServer, stored Profile.identityKey document])
    (putPresent Profile.serverKey (o.resolvedHomeServer document) document))

theorem isNull_and_isNull_iff :
    ((o.givenToken token).isNull && o.userId.isNull) = true ↔ o.KeepsCredentials token := by
  rw [Bool.and_eq_true, Value.isNull_iff, Value.isNull_iff, KeepsCredentials]

theorem apply_eq :
    o.apply token document =
      if o.KeepsCredentials token then o.mergedParts document
      else Entries.putText Profile.credentialsKey
        (.map (o.credentials (o.givenToken token) (o.resolvedHomeServer document)
          (storedCredentials document))) (o.mergedParts document) := by
  by_cases h : o.KeepsCredentials token
  · rw [if_pos h]
    exact if_pos (isNull_and_isNull_iff.2 h)
  · rw [if_neg h]
    exact if_neg fun hn => h (isNull_and_isNull_iff.1 hn)

theorem stored_apply {key : Text} (hk : Profile.credentialsKey ≠ key) :
    stored key (o.apply token document) = stored key (o.mergedParts document) := by
  rw [apply_eq]
  split
  · rfl
  · rw [Entries.stored_putText, if_neg hk]

theorem stored_apply_serverKey :
    stored Profile.serverKey (o.apply token document) = o.resolvedHomeServer document := by
  rw [stored_apply (by decide), mergedParts, stored_putPins _ _ (by decide),
    stored_putPresent_of_ne (by decide)]
  exact stored_putPresent_first ..

theorem stored_apply_identityKey :
    stored Profile.identityKey (o.apply token document) =
      firstPresent [o.identityServer, stored Profile.identityKey document] := by
  have hs : stored Profile.identityKey (putPresent Profile.serverKey
      (o.resolvedHomeServer document) document) = stored Profile.identityKey document :=
    stored_putPresent_of_ne (by decide) ..
  rw [stored_apply (by decide), mergedParts, stored_putPins _ _ (by decide), ← hs]
  exact stored_putPresent_first ..

theorem stored_apply_pinsKey :
    stored Profile.pinsKey (o.apply token document) =
      match o.pins with
      | some ps => .list (ps.map Pin.toDocument)
      | .none => stored Profile.pinsKey document := by
  rw [stored_apply (by decide), mergedParts]
  cases o.pins with
  | some ps => exact Entries.stored_putText.trans (if_pos rfl)
  | none =>
    rw [putPins, stored_putPresent_of_ne (by decide), stored_putPresent_of_ne (by decide)]

theorem stored_apply_credentialsKey :
    stored Profile.credentialsKey (o.apply token document) =
      if o.KeepsCredentials token then stored Profile.credentialsKey document
      else .map (o.credentials (o.givenToken token) (o.resolvedHomeServer document)
        (storedCredentials document)) := by
  rw [apply_eq]
  split
  · rw [mergedParts, stored_putPins _ _ (by decide), stored_putPresent_of_ne (by decide),
      stored_putPresent_of_ne (by decide)]
  · rw [Entries.stored_putText, if_pos rfl]

-- ---------------------------------------------------------------------------
-- The credentials
-- ---------------------------------------------------------------------------

theorem storedCredentials_eq :
    storedCredentials document = (stored Profile.credentialsKey document).entries := by
  rw [storedCredentials, stored]
  cases Entries.get? Profile.credentialsKey document with
  | none => rfl
  | some v => cases v <;> rfl

/-- The value of a field in credentials that are written anew. -/
def fieldValue (o : Overrides) (accessToken homeServer : Value) (old : List Entry) :
    Credentials.FieldName → Value
  | .userId => firstPresent [o.userId, stored Credentials.FieldName.userId.key old]
  | .homeServer =>
    firstPresent [stored Credentials.FieldName.homeServer.key old, defaultHomeServer homeServer]
  | .accessToken => firstPresent [accessToken, stored Credentials.FieldName.accessToken.key old]
  | .deviceId => firstPresent [o.deviceId, stored Credentials.FieldName.deviceId.key old]
  | .refreshToken => stored Credentials.FieldName.refreshToken.key old

theorem credentials_eq_filter (accessToken homeServer : Value) (old : List Entry) :
    o.credentials accessToken homeServer old =
      (Credentials.FieldName.all.map fun field =>
        (Value.text field.key, o.fieldValue accessToken homeServer old field)).filter
          fun e => !e.2.isNull := rfl

theorem stored_credentials (accessToken homeServer : Value) (old : List Entry)
    (field : Credentials.FieldName) :
    stored field.key (o.credentials accessToken homeServer old) =
      o.fieldValue accessToken homeServer old field := by
  have hk : (Entries.keys (Credentials.FieldName.all.map fun f =>
      (Value.text f.key, o.fieldValue accessToken homeServer old f))).Nodup := by
    simp +decide [Entries.keys, Credentials.FieldName.all]
  rw [credentials_eq_filter, Entries.stored_filter hk]
  cases field <;> rfl

end Overrides

end ConnectionProfile
