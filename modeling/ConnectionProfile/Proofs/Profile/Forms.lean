import ConnectionProfile.Proofs.Profile.Fields
import ConnectionProfile.Proofs.Value.Form

/-!
# Forms of pins and credentials

Pins and credentials are stored in forms: a pin has two required keys, and credentials have three
and two optional ones. `decode` accepts exactly the mappings that fill the form, and it makes no
difference between a text and its octets.
-/

namespace ConnectionProfile

open Logged
open Overrides (stored)

variable {entries : List Entry}

-- ---------------------------------------------------------------------------
-- Pins
-- ---------------------------------------------------------------------------

namespace Pin

def form : Form where
  required := [hostnameKey, hashKey]
  optional := []

theorem makes_require (key : Text) (entries : List Entry) : (require key entries).Makes
    [.ask (Entries.get? key entries ≠ none) (.missingKey key)] := by
  intro e
  unfold require
  cases Entries.get? key entries <;> simp [bind_result_error, log, fail, Check.ask]

theorem require_ok {key : Text} {v : Value} :
    (require key entries).result = .ok v ↔ Entries.get? key entries = some v := by
  unfold require
  cases Entries.get? key entries with
  | none => simp only [bind_result_ok, fail_result_ok, and_false, exists_false, reduceCtorEq]
  | some w => simp only [pure_result_ok, Option.some.injEq]

theorem check_ok {hostname hash : Value} {p : Pin} : check (some hostname) (some hash) = .ok p ↔
    hostname.Says p.hostname ∧ hash.Says p.publicKeyHash := by
  obtain ⟨h, k⟩ := p
  rw [← Field.text_ok, ← Field.text_ok, check, Field.required, Field.required]
  cases Field.text hostname <;> cases Field.text hash <;> simp

theorem filledBy_iff : form.FilledBy entries ↔
    ∃ p : Pin, (stored hostnameKey entries).Says p.hostname ∧
      (stored hashKey entries).Says p.publicKeyHash := by
  constructor
  · rintro ⟨h, -⟩
    obtain ⟨t, ht⟩ := h hostnameKey (by simp [form])
    obtain ⟨u, hu⟩ := h hashKey (by simp [form])
    exact ⟨⟨t, u⟩, ht, hu⟩
  · rintro ⟨p, h, k⟩
    refine ⟨?_, nofun⟩
    simp only [form, List.forall_mem_cons, List.not_mem_nil, false_implies, implies_true, and_true]
    exact ⟨⟨_, h⟩, _, k⟩

theorem makes_decode (v : Value) : (decode v).Makes (form.checks .missingKey .invalidFormat v) := by
  cases v with
  | map entries =>
    refine (makes_require hostnameKey entries).bind fun h hh =>
      (makes_require hashKey entries).bind fun k hk => makes_ask ?_ fun e he => ?_
    · rw [filledBy_iff, Entries.stored_of_get? (require_ok.1 hh),
        Entries.stored_of_get? (require_ok.1 hk)]
      simp only [← check_ok]
      cases check (some h) (some k) <;> simp [invalid, bind_result_ok]
    · split at he
      · cases he
      · exact (Except.error.inj he).symm
  | _ =>
    refine makes_ask ?_ fun e he => (Except.error.inj he).symm
    simp [decode, invalid, bind_result_ok]

theorem decode_ok_iff {p : Pin} : (decode (.map entries)).result = .ok p ↔
    (stored hostnameKey entries).Says p.hostname ∧
      (stored hashKey entries).Says p.publicKeyHash := by
  simp only [decode, bind_result_ok, require_ok]
  constructor
  · rintro ⟨h, hh, k, hk, hc⟩
    rw [Entries.stored_of_get? hh, Entries.stored_of_get? hk, ← check_ok]
    split at hc
    · rwa [← pure_result_ok.1 hc]
    · cases hc
  · rintro ⟨h, k⟩
    refine ⟨_, Entries.get?_of_stored rfl h.ne_null, _, Entries.get?_of_stored rfl k.ne_null, ?_⟩
    rw [check_ok.2 ⟨h, k⟩]
    rfl

theorem toDocument_decoded {p : Pin} (h : (decode (.map entries)).result = .ok p) :
    p.toDocument = .map (form.excerpt entries) := by
  obtain ⟨h, k⟩ := decode_ok_iff.1 h
  simp [toDocument, toEntries, form, Form.excerpt, h.ne_null, h.decoded, k.ne_null, k.decoded]

end Pin

-- ---------------------------------------------------------------------------
-- Credentials
-- ---------------------------------------------------------------------------

namespace Credentials

def form : Form where
  required := [FieldName.userId.key, FieldName.homeServer.key, FieldName.accessToken.key]
  optional := [FieldName.refreshToken.key, FieldName.deviceId.key]

theorem makes_require (field : FieldName) (entries : List Entry) : (require field entries).Makes
    [.ask (Entries.get? field.key entries ≠ none) (.missingKey field.key)] := by
  intro e
  unfold require
  cases Entries.get? field.key entries <;> simp [bind_result_error, log, fail, Check.ask]

/-- An optional field has no text when it holds nothing. -/
def MaySay (v : Value) (o : Option Text) : Prop :=
  v = .null ∧ o = none ∨ ∃ t, v.Says t ∧ o = some t

theorem exists_maySay {v : Value} : (∃ o, MaySay v o) ↔ v = .null ∨ ∃ t, v.Says t := by
  simp [MaySay, exists_or]

/-- The texts that make the credentials stand under their keys. -/
def AreIn (c : Credentials) (entries : List Entry) : Prop := ∃ u h a d r,
  (stored FieldName.userId.key entries).Says u ∧
  (stored FieldName.homeServer.key entries).Says h ∧
  (stored FieldName.accessToken.key entries).Says a ∧
  MaySay (stored FieldName.deviceId.key entries) d ∧
  MaySay (stored FieldName.refreshToken.key entries) r ∧ c = ofTexts u h a d r

theorem ofFields_ok {c : Credentials} : ofFields entries = .ok c ↔ c.AreIn entries := by
  simp only [ofFields_ok_iff, Field.text_ok, Field.optional_text_ok, AreIn, MaySay]

theorem decode_ok_areIn {c : Credentials} :
    (decode (.map entries)).result = .ok c ↔ c.AreIn entries := by
  simp only [decode_ok_iff, Field.text_ok, Field.optional_text_ok, AreIn, MaySay]

theorem filledBy_iff : form.FilledBy entries ↔ ∃ c : Credentials, c.AreIn entries := by
  constructor
  · rintro ⟨h, k⟩
    simp only [form, List.forall_mem_cons, ← exists_maySay] at h k
    obtain ⟨⟨u, hu⟩, ⟨v, hv⟩, ⟨a, ha⟩, -⟩ := h
    obtain ⟨⟨r, hr⟩, ⟨d, hd⟩, -⟩ := k
    exact ⟨_, u, v, a, d, r, hu, hv, ha, hd, hr, rfl⟩
  · rintro ⟨_, u, h, a, d, r, hu, hh, ha, hd, hr, -⟩
    constructor
    · simp only [form, List.forall_mem_cons, List.not_mem_nil, false_implies, implies_true,
        and_true]
      exact ⟨⟨u, hu⟩, ⟨h, hh⟩, a, ha⟩
    · simp only [form, List.forall_mem_cons, List.not_mem_nil, false_implies, implies_true,
        and_true, ← exists_maySay]
      exact ⟨⟨r, hr⟩, d, hd⟩

theorem makes_decode (v : Value) : (decode v).Makes (form.checks .missingKey .invalidFormat v) := by
  cases v with
  | map entries =>
    refine (makes_require .userId entries).bind fun _ _ =>
      (makes_require .homeServer entries).bind fun _ _ =>
        (makes_require .accessToken entries).bind fun _ _ => makes_ask ?_ fun e he => ?_
    · rw [filledBy_iff]
      simp only [← ofFields_ok]
      cases ofFields entries <;> simp [invalid, bind_result_ok]
    · split at he
      · cases he
      · exact (Except.error.inj he).symm
  | _ =>
    refine makes_ask ?_ fun e he => (Except.error.inj he).symm
    simp [decode, invalid, bind_result_ok]

theorem MaySay.entry {v : Value} {o : Option Text} (h : MaySay v o) (key : Text) :
    (if v = .null then none else some (.text key, v.decoded) : Option Entry) =
      o.map fun t => (.text key, .text t) := by
  obtain ⟨rfl, rfl⟩ | ⟨t, ht, rfl⟩ := h
  · rfl
  · rw [if_neg ht.ne_null, ht.decoded, Option.map_some]

theorem toDocument_decoded {c : Credentials} (h : (decode (.map entries)).result = .ok c) :
    c.toDocument = .map (form.excerpt entries) := by
  obtain ⟨u, h, a, d, r, hu, hh, ha, hd, hr, rfl⟩ := decode_ok_areIn.1 h
  simp only [form, Form.excerpt, List.cons_append, List.nil_append, List.filterMap_cons,
    List.filterMap_nil, hu.ne_null, hu.decoded, hh.ne_null, hh.decoded, ha.ne_null, ha.decoded,
    if_false, hd.entry, hr.entry]
  cases d <;> cases r <;> rfl

end Credentials

-- ---------------------------------------------------------------------------
-- Both forms
-- ---------------------------------------------------------------------------

/-- Pins and credentials are read back from their forms, and they are read from exactly the mappings
that fill them. -/
theorem Form.governs_pins_and_credentials :
    Pin.form.Governs Pin.decode Pin.toDocument (fun _ => True) .missingKey .invalidFormat
      Pin.DecodeError.message ∧
    Credentials.form.Governs Credentials.decode Credentials.toDocument Credentials.IsValidated
      .missingKey .invalidFormat Credentials.DecodeError.message where
  left := {
    decode_encode := fun p _ => Pin.decode_toDocument p
    made := fun _ _ _ => trivial
    encode_decoded := fun _ _ => Pin.toDocument_decoded
    accepts := Form.accepts_of_makes Pin.makes_decode
    misses :=
      Form.misses_of_makes Pin.makes_decode (fun _ _ => Pin.DecodeError.missingKey.inj) nofun
    rejects := Form.rejects_of_makes Pin.makes_decode nofun
    names := fun _ => ⟨_, rfl⟩ }
  right := {
    decode_encode := fun _ => Credentials.decode_toDocument
    made := fun _ _ => Credentials.decode_ok
    encode_decoded := fun _ _ => Credentials.toDocument_decoded
    accepts := Form.accepts_of_makes Credentials.makes_decode
    misses := Form.misses_of_makes Credentials.makes_decode
      (fun _ _ => Credentials.DecodeError.missingKey.inj) nofun
    rejects := Form.rejects_of_makes Credentials.makes_decode nofun
    names := fun _ => ⟨_, rfl⟩ }

/-- A text may hold a surrogate, which no octets say. -/
theorem Pin.not_accepts_unicode_only :
    ¬∀ v : Value, (∃ p, (decode v).result = .ok p) ↔ ∃ entries, v = .map entries ∧
      ∀ key ∈ form.required, ∃ t, (stored key entries).Says t ∧ t.isUnicode = true := by
  intro h
  obtain ⟨_, ⟨⟩, hk⟩ := (h (.map [(.text hostnameKey, .text [0xD800]),
    (.text hashKey, .text "h")])).1 ⟨⟨[0xD800], "h"⟩, rfl⟩
  obtain ⟨t, ht, hu⟩ := hk hostnameKey (by simp [form])
  cases ht
  cases hu

end ConnectionProfile
