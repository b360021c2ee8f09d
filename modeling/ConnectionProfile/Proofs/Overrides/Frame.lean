import ConnectionProfile.Proofs.Overrides.Changes

/-!
# What overrides leave alone

Overrides give something for some of the four keys of a document, and only what is under these keys
changes. Keys that are new come last, in a fixed order. This is so whatever the document holds, and
so it is said here of entries in general; `apply_frames` says it of documents that are values.
-/

namespace ConnectionProfile

open Credentials (FieldName)

/-- Whether overrides can change what is under a key. -/
def Profile.isKey (k : Value) : Bool := keys.any fun key => k.sameKey (.text key)

theorem Profile.isKey_text {key : Text} (h : key ∈ keys) : isKey (.text key) = true :=
  List.any_eq_true.2 ⟨key, h, Value.sameKey_text.2 rfl⟩

namespace Overrides

variable {α : Type} {o : Overrides} {token : Option Text}

/-- The keys that overrides give something for. -/
def givenKeys (o : Overrides) (token : Option Text) : List Text :=
  (if o.homeServer = .null then [] else [Profile.serverKey]) ++
    (if o.identityServer = .null then [] else [Profile.identityKey]) ++
    (if o.pins.isNone then [] else [Profile.pinsKey]) ++
    (if o.KeepsCredentials token then [] else [Profile.credentialsKey])

/-- The entries are fields of credentials, in their order, and none is null. -/
structure AreFields (isNull : α → Bool) (es : List (Value × α)) : Prop where
  keys : (Entries.keys es).Sublist (FieldName.all.map fun field => .text field.key)
  notNull : ∀ e ∈ es, isNull e.2 = false

/-- What the entries `es` of a document become with overrides. The given values are put by way of
`own`, and `IsNew` holds of credentials that are written anew. -/
structure Frames (o : Overrides) (token : Option Text) (own : Value → α) (IsNew : α → Prop)
    (es merged : List (Value × α)) : Prop where
  /-- Entries under other keys are the same. -/
  others : (merged.filter fun e => !Profile.isKey e.1) = es.filter fun e => !Profile.isKey e.1
  /-- Keys that are new come last. -/
  order : Entries.keys merged = Entries.keys es ++
    ((o.givenKeys token).filter fun key => (Entries.under? key es).isNone).map .text
  server : Entries.under? Profile.serverKey merged =
    if o.homeServer = .null then Entries.under? Profile.serverKey es else some (own o.homeServer)
  identity : Entries.under? Profile.identityKey merged =
    if o.identityServer = .null then Entries.under? Profile.identityKey es
    else some (own o.identityServer)
  pins : Entries.under? Profile.pinsKey merged =
    match o.pins with
    | some ps => some (own (.list (ps.map Pin.toDocument)))
    | .none => Entries.under? Profile.pinsKey es
  keptCredentials : o.KeepsCredentials token →
    Entries.under? Profile.credentialsKey merged = Entries.under? Profile.credentialsKey es
  newCredentials : ¬o.KeepsCredentials token →
    ∃ v, Entries.under? Profile.credentialsKey merged = some v ∧ IsNew v
  unchanged : o.givenKeys token = [] → merged = es

theorem areFields_filter (isNull : α → Bool) (value : FieldName → α) :
    AreFields isNull ((FieldName.all.map fun field => (Value.text field.key, value field)).filter
      fun e => !isNull e.2) where
  keys := (List.filter_sublist ..).map Prod.fst
  notNull e he := by simpa using (List.mem_filter.1 he).2

theorem map_fst_filter_changes (own : Value → α) (credentials : α) :
    ((o.changes token own credentials).filter (·.2.isSome)).map Prod.fst = o.givenKeys token := by
  have hv (v : Value) : (v.toOption.map own).isSome = !decide (v = .null) := by
    cases v <;> rfl
  by_cases hs : o.homeServer = .null <;> by_cases hi : o.identityServer = .null <;>
    cases hp : o.pins <;> by_cases hk : o.KeepsCredentials token <;>
    simp [changes, partChanges, givenKeys, hv, hs, hi, hp, hk]

theorem under?_changes {own : Value → α} {credentials : α} {key : Text} {v : Option α}
    (h : (key, v) ∈ o.changes token own credentials) (es : List (Value × α)) :
    Entries.under? key (Entries.putEach (o.changes token own credentials) es) =
      v.or (Entries.under? key es) :=
  Entries.under?_putEach (nodup_changes ..) h es

theorem under?_changes_credentialsKey (own : Value → α) (credentials : α)
    (es : List (Value × α)) :
    Entries.under? Profile.credentialsKey (Entries.putEach (o.changes token own credentials) es) =
      if o.KeepsCredentials token then Entries.under? Profile.credentialsKey es
      else some credentials := by
  rw [under?_changes (List.mem_append_right _ (List.mem_singleton.2 rfl))]
  split <;> rfl

theorem map_toOption_or (own : Value → α) (v : Value) (old : Option α) :
    (v.toOption.map own).or old = if v = .null then old else some (own v) := by
  cases v <;> simp [Value.toOption]

theorem frames_putEach {own : Value → α} {credentials : α} {IsNew : α → Prop}
    (h : ¬o.KeepsCredentials token → IsNew credentials) (es : List (Value × α)) :
    o.Frames token own IsNew es (Entries.putEach (o.changes token own credentials) es) := by
  have hpins : (Profile.pinsKey, o.pins.map fun ps => own (.list (ps.map Pin.toDocument))) ∈
      o.changes token own credentials := by simp [changes, partChanges]
  exact {
    others := Entries.filter_putEach (p := fun k => !Profile.isKey k)
      (fun key hk => by rw [Profile.isKey_text hk]; rfl) es
    order := by
      rw [Entries.keys_putEach (nodup_changes ..), ← map_fst_filter_changes own credentials,
        List.filter_map, List.filter_filter, List.map_map]
      simp only [Function.comp_def, Bool.and_comm]
    server := (under?_changes (by simp [changes, partChanges]) es).trans (map_toOption_or ..)
    identity := (under?_changes (by simp [changes, partChanges]) es).trans (map_toOption_or ..)
    pins := by
      rw [under?_changes hpins]
      cases o.pins <;> rfl
    keptCredentials := fun hk => by rw [under?_changes_credentialsKey, if_pos hk]
    newCredentials := fun hk =>
      ⟨credentials, by rw [under?_changes_credentialsKey, if_neg hk], h hk⟩
    unchanged := fun hg => by
      rw [← map_fst_filter_changes own credentials, List.map_eq_nil_iff,
        List.filter_eq_nil_iff] at hg
      exact Entries.putEach_eq_self fun c hc v hv => absurd (Option.isSome_of_mem hv) (hg c hc) }

/-- The value is a mapping of fields. -/
def IsFields (v : Value) : Prop := ∃ fields, v = .map fields ∧ AreFields Value.isNull fields

theorem apply_frames (o : Overrides) (token : Option Text) (document : List Entry) :
    o.Frames token id IsFields document (o.apply token document) := by
  rw [apply_eq_putEach]
  refine frames_putEach (fun _ => ⟨_, rfl, ?_⟩) document
  rw [newCredentials, credentials_eq_filter]
  exact areFields_filter ..

end Overrides

end ConnectionProfile
