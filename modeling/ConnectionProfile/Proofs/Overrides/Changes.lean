import ConnectionProfile.Proofs.Overrides.Merged

/-!
# Overrides as changes

Overrides come to at most four puts: one for each part that is given, and none for a part that is
not (`apply_eq_putEach`).
-/

namespace ConnectionProfile

/-- A null is no value. -/
def Value.toOption : Value → Option Value
  | .null => none
  | v => some v

theorem Value.toOption_of_ne {v : Value} (h : v ≠ .null) : v.toOption = some v := by
  cases v with
  | null => exact absurd rfl h
  | _ => rfl

/-- The keys that overrides can change, in the order in which they are put. -/
def Profile.keys : List Text := [serverKey, identityKey, pinsKey, credentialsKey]

namespace Overrides

variable {o : Overrides} {token : Option Text} {document old : List Entry}

-- ---------------------------------------------------------------------------
-- The puts
-- ---------------------------------------------------------------------------

/-- What overrides put under which key, apart from the credentials. Values are put by way of
`own`. -/
def partChanges {α : Type} (o : Overrides) (own : Value → α) : List (Text × Option α) := [
  (Profile.serverKey, o.homeServer.toOption.map own),
  (Profile.identityKey, o.identityServer.toOption.map own),
  (Profile.pinsKey, o.pins.map fun ps => own (.list (ps.map Pin.toDocument)))]

/-- All that overrides put; `credentials` are those that are written anew. -/
def changes {α : Type} (o : Overrides) (token : Option Text) (own : Value → α) (credentials : α) :
    List (Text × Option α) :=
  o.partChanges own ++
    [(Profile.credentialsKey, if o.KeepsCredentials token then .none else some credentials)]

theorem putEach_changes {α : Type} (own : Value → α) (credentials : α) (es : List (Value × α)) :
    Entries.putEach (o.changes token own credentials) es =
      if o.KeepsCredentials token then Entries.putEach (o.partChanges own) es
      else Entries.put (.text Profile.credentialsKey) credentials
        (Entries.putEach (o.partChanges own) es) := by
  rw [changes, Entries.putEach_append]
  split <;> rfl

theorem map_fst_changes {α : Type} (own : Value → α) (credentials : α) :
    (o.changes token own credentials).map Prod.fst = Profile.keys := rfl

theorem nodup_changes {α : Type} (own : Value → α) (credentials : α) :
    ((o.changes token own credentials).map Prod.fst).Nodup := by
  rw [map_fst_changes]
  decide

/-- What is put when nothing is given is there already. -/
theorem putPresent_firstPresent (key : Text) (v : Value) (es : List Entry) :
    putPresent key (firstPresent [v, stored key es]) es = Entries.putSome key v.toOption es := by
  by_cases hv : v = .null
  · subst hv
    rw [firstPresent_null, firstPresent_singleton]
    exact putPresent_stored key es
  · rw [firstPresent_cons, if_neg (by rwa [Value.isNull_iff]), Value.toOption_of_ne hv, putPresent,
      if_neg (by rwa [Value.isNull_iff])]
    rfl

theorem mergedParts_eq_putEach :
    o.mergedParts document = Entries.putEach (o.partChanges id) document := by
  have hid (v : Option Value) : v.map id = v := Option.map_id_fun ▸ rfl
  have hs : stored Profile.identityKey document = stored Profile.identityKey
      (Entries.putSome Profile.serverKey o.homeServer.toOption document) := by
    rw [← putPresent_firstPresent, stored_putPresent_of_ne (by decide)]
  rw [mergedParts, resolvedHomeServer, putPresent_firstPresent, hs, putPresent_firstPresent,
    partChanges, hid, hid]
  cases o.pins <;> rfl

/-- The credentials that are written anew over a document. -/
def newCredentials (o : Overrides) (token : Option Text) (document : List Entry) : List Entry :=
  o.credentials (o.givenToken token) (o.resolvedHomeServer document) (storedCredentials document)

theorem apply_eq_putEach : o.apply token document =
    Entries.putEach (o.changes token id (.map (o.newCredentials token document))) document := by
  rw [apply_eq, mergedParts_eq_putEach, putEach_changes]
  rfl

end Overrides

end ConnectionProfile
