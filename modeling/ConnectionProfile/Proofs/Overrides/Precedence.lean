import ConnectionProfile.Proofs.Overrides.Merged

/-!
# Precedence of sources

A field of the credentials can be given by an argument, by the environment and by the stored
document, and the first of these that gives it should count. `precedence_iff` says when that is so:
always, unless a device is given and neither a user nor a token, for then the stored credentials
stay as they are.
-/

namespace ConnectionProfile.Overrides

open Credentials (FieldName)

variable {o : Overrides} {token : Option Text} {document old : List Entry}

/-- The value is present, and all before it are null. -/
def IsFirst (v : Value) (vs : List Value) : Prop :=
  ∃ before after, vs = before ++ v :: after ∧ (∀ w ∈ before, w = .null) ∧ v ≠ .null

theorem isFirst_cons {v w : Value} {vs : List Value} :
    IsFirst v (w :: vs) ↔ if w = .null then IsFirst v vs else v = w := by
  split
  case isTrue hw =>
    constructor
    · rintro ⟨before, after, h, hb, hv⟩
      cases before with
      | nil =>
        cases h
        exact absurd hw hv
      | cons _ before =>
        cases h
        exact ⟨before, after, rfl, fun u hu => hb u (List.mem_cons_of_mem _ hu), hv⟩
    · rintro ⟨before, after, rfl, hb, hv⟩
      refine ⟨w :: before, after, rfl, fun u hu => ?_, hv⟩
      exact (List.mem_cons.1 hu).elim (fun h => h.trans hw) (hb u)
  case isFalse hw =>
    constructor
    · rintro ⟨before, after, h, hb, -⟩
      cases before with
      | nil =>
        cases h
        rfl
      | cons _ before =>
        cases h
        exact absurd (hb w (List.mem_cons_self ..)) hw
    · rintro rfl
      exact ⟨[], vs, rfl, fun _ hu => (nomatch hu), hw⟩

theorem isFirst_iff {v : Value} {vs : List Value} :
    IsFirst v vs ↔ firstPresent vs = v ∧ v ≠ .null := by
  induction vs with
  | nil =>
    constructor
    · rintro ⟨before, after, h, -⟩
      simp at h
    · rintro ⟨rfl, hv⟩
      exact absurd rfl hv
  | cons w vs ih =>
    rw [isFirst_cons, firstPresent_cons]
    by_cases hw : w = .null
    · rw [if_pos hw, if_pos (Value.isNull_iff.2 hw), ih]
    · rw [if_neg hw, if_neg (by rwa [Value.isNull_iff])]
      constructor
      · rintro rfl
        exact ⟨rfl, hw⟩
      · rintro ⟨rfl, -⟩
        rfl

theorem firstPresent_firstPresent (vs ws : List Value) :
    firstPresent (firstPresent vs :: ws) = firstPresent (vs ++ ws) := by
  induction vs with
  | nil => rfl
  | cons v vs ih =>
    rw [firstPresent_cons v, List.cons_append, firstPresent_cons v]
    split
    · exact ih
    · rw [firstPresent_cons, if_neg ‹_›]

/-- The fields that can be given beside the stored document. -/
def givenFields : List FieldName := [.userId, .deviceId, .accessToken]

/-- What arguments and environment give for a field, arguments first. -/
def given (o : Overrides) (token : Option Text) : FieldName → List Value
  | .userId => [o.userId]
  | .deviceId => [o.deviceId]
  | .accessToken => [o.accessToken, .ofTextOption token]
  | .homeServer | .refreshToken => []

/-- All that can give a field, in the order in which it counts. -/
def sources (o : Overrides) (token : Option Text) (old : List Entry) (field : FieldName) :
    List Value :=
  o.given token field ++ [stored field.key old]

theorem keepsCredentials_iff :
    o.KeepsCredentials token ↔ o.userId = .null ∧ o.accessToken = .null ∧ token = .none := by
  have ht : Value.ofTextOption token = .null ↔ token = .none := by
    cases token <;> simp [Value.ofTextOption]
  rw [KeepsCredentials, givenToken, firstPresent_eq_null]
  simp only [List.forall_mem_cons, List.not_mem_nil, false_implies, implies_true, and_true, ht]
  exact and_comm

theorem fieldValue_eq_sources {field : FieldName} (hf : field ∈ givenFields)
    (homeServer : Value) (old : List Entry) :
    o.fieldValue (o.givenToken token) homeServer old field =
      firstPresent (o.sources token old field) := by
  simp only [givenFields, List.mem_cons, List.not_mem_nil, or_false] at hf
  obtain rfl | rfl | rfl := hf
  · rfl
  · rfl
  · exact firstPresent_firstPresent ..

/-- Where nothing is given the stored value is the first. -/
theorem sources_eq_stored {field : FieldName} (h : ∀ v ∈ o.given token field, v = .null)
    (old : List Entry) : firstPresent (o.sources token old field) = stored field.key old := by
  rw [sources, ← firstPresent_firstPresent, firstPresent_eq_null.2 h, firstPresent_null,
    firstPresent_singleton]

/-- In stored credentials that are kept, precedence fails for a device that is given. -/
theorem stored_eq_sources_iff (hk : o.KeepsCredentials token) :
    (∀ field ∈ givenFields, firstPresent (o.sources token old field) ≠ .null →
        stored field.key old = firstPresent (o.sources token old field)) ↔
      o.deviceId = .null ∨ stored FieldName.deviceId.key old = o.deviceId := by
  obtain ⟨hu, ha, rfl⟩ := keepsCredentials_iff.1 hk
  have hd (h : o.deviceId ≠ .null) :
      firstPresent (o.sources .none old .deviceId) = o.deviceId := by
    rw [sources, given, List.singleton_append, firstPresent_cons,
      if_neg (by rwa [Value.isNull_iff])]
  constructor
  · intro h
    by_cases hn : o.deviceId = .null
    · exact .inl hn
    · have hs := h .deviceId (by decide)
      rw [hd hn] at hs
      exact .inr (hs hn)
  · intro h field hf _
    simp only [givenFields, List.mem_cons, List.not_mem_nil, or_false] at hf
    obtain rfl | rfl | rfl := hf
    · exact (sources_eq_stored (by simp [given, hu]) old).symm
    · by_cases hn : o.deviceId = .null
      · exact (sources_eq_stored (by simp [given, hn]) old).symm
      · rw [hd hn]
        exact h.resolve_left hn
    · exact (sources_eq_stored (by simp [given, ha, Value.ofTextOption]) old).symm

theorem get?_eq_some_iff {key : Text} {v : Value} (hv : v ≠ .null) :
    Entries.get? key old = some v ↔ stored key old = v :=
  ⟨Entries.stored_of_get?, fun h => Entries.get?_of_stored h hv⟩

theorem forall_isFirst_iff {key : Text} {vs : List Value} :
    (∀ v, IsFirst v vs → Entries.get? key old = some v) ↔
      (firstPresent vs ≠ .null → stored key old = firstPresent vs) := by
  constructor
  · intro h hn
    exact Entries.stored_of_get? (h _ (isFirst_iff.2 ⟨rfl, hn⟩))
  · intro h v hv
    obtain ⟨rfl, hn⟩ := isFirst_iff.1 hv
    exact Entries.get?_of_stored (h hn) hn

/-- Over a document with credentials, each field that any source gives has the value of the first
that does, if and only if a user or a token is given, or no device is given, or the one that is
stored already. -/
theorem precedence_iff
    (h : Entries.get? Profile.credentialsKey document = some (.map old)) :
    ∃ merged, Entries.get? Profile.credentialsKey (o.apply token document) = some (.map merged) ∧
      ((∀ field ∈ givenFields, ∀ v, IsFirst v (o.sources token old field) →
          Entries.get? field.key merged = some v) ↔
        (o.userId ≠ .null ∨ o.accessToken ≠ .null ∨ token ≠ .none) ∨ o.deviceId = .null ∨
          Entries.get? FieldName.deviceId.key old = some o.deviceId) := by
  have hs := @stored_apply_credentialsKey o token document
  rw [Entries.stored_of_get? h, storedCredentials, h] at hs
  simp only [forall_isFirst_iff]
  by_cases hk : o.KeepsCredentials token
  · rw [if_pos hk] at hs
    refine ⟨old, Entries.get?_of_stored hs (by simp), ?_⟩
    rw [stored_eq_sources_iff hk]
    obtain ⟨hu, ha, ht⟩ := keepsCredentials_iff.1 hk
    constructor
    · rintro (hd | hd)
      · exact .inr (.inl hd)
      · by_cases hn : o.deviceId = .null
        · exact .inr (.inl hn)
        · exact .inr (.inr ((get?_eq_some_iff hn).2 hd))
    · rintro ((hn | hn | hn) | hd | hd)
      · exact absurd hu hn
      · exact absurd ha hn
      · exact absurd ht hn
      · exact .inl hd
      · exact .inr (Entries.stored_of_get? hd)
  · rw [if_neg hk] at hs
    refine ⟨_, Entries.get?_of_stored hs (by simp), iff_of_true ?_ (.inl ?_)⟩
    · intro field hf _
      rw [stored_credentials, fieldValue_eq_sources hf]
    · rw [keepsCredentials_iff] at hk
      by_cases hu : o.userId = .null
      · by_cases ha : o.accessToken = .null
        · exact .inr (.inr fun ht => hk ⟨hu, ha, ht⟩)
        · exact .inr (.inl ha)
      · exact .inl hu

/-- The token of the environment is enough for the device of the arguments to count. -/
theorem precedence_iff_token :
    ∃ merged, Entries.get? Profile.credentialsKey
        (apply { none with deviceId := .text "NEW" } (some "T")
          [(.text Profile.credentialsKey, .map [(.text "user_id", .text "U"),
            (.text "access_token", .text "OLD"), (.text "device_id", .text "OLD")])]) =
          some (.map merged) ∧
      Entries.get? FieldName.userId.key merged = some (.text "U") ∧
      Entries.get? FieldName.accessToken.key merged = some (.text "T") ∧
      Entries.get? FieldName.deviceId.key merged = some (.text "NEW") := by
  obtain ⟨merged, hm, hiff⟩ := @precedence_iff { none with deviceId := .text "NEW" } (some "T")
    [(.text Profile.credentialsKey, .map [(.text "user_id", .text "U"),
      (.text "access_token", .text "OLD"), (.text "device_id", .text "OLD")])] _ rfl
  have h := hiff.2 (.inl (.inr (.inr (by simp))))
  refine ⟨merged, hm, h .userId (by decide) _ ?_, h .accessToken (by decide) _ ?_,
    h .deviceId (by decide) _ ?_⟩
  · exact ⟨[.null], [], rfl, by simp, by simp⟩
  · exact ⟨[.null], [.text "OLD"], rfl, by simp, by simp⟩
  · exact ⟨[], [.text "OLD"], rfl, by simp, by simp⟩

/-- A device that is given alone does not count. -/
theorem not_precedence_device_alone :
    ∃ old merged : List Entry,
      Entries.get? Profile.credentialsKey (apply { none with deviceId := .text "NEW" } .none
        [(.text Profile.credentialsKey, .map old)]) = some (.map merged) ∧
      ¬∀ field ∈ givenFields, ∀ v,
        IsFirst v (sources { none with deviceId := .text "NEW" } .none old field) →
          Entries.get? field.key merged = some v := by
  refine ⟨[(.text "device_id", .text "OLD")], [(.text "device_id", .text "OLD")], rfl, fun h => ?_⟩
  have hd := h .deviceId (by decide) (.text "NEW")
    ⟨[], [.text "OLD"], rfl, fun _ hw => (nomatch hw), by simp⟩
  have ho : Entries.get? FieldName.deviceId.key [(.text "device_id", .text "OLD")] =
      some (.text "OLD") := rfl
  rw [ho] at hd
  exact absurd (Value.text.inj (Option.some.inj hd)) (by decide)

end ConnectionProfile.Overrides
