import ConnectionProfile.Proofs.Field
import ConnectionProfile.Proofs.Logged.Checks
import ConnectionProfile.Proofs.Overrides.Merged

/-!
# Forms of mappings

A form names the keys that a mapping has to have, and those that it may have. `Form.Governs` holds
the laws of records of texts that are stored in a form: they are read back, a mapping that is read is
written back as its excerpt, and one that does not fill the form is refused for the first key that is
missing, if one is.
-/

namespace ConnectionProfile

open Check (FirstFailure)
open Overrides (stored)

structure Form where
  /-- In the order in which they are asked for. -/
  required : List Text
  /-- In the order in which they are written, after the required ones. -/
  optional : List Text

namespace Form

variable (form : Form)

/-- There is a text under every required key, and under an optional one if there is anything. -/
structure FilledBy (entries : List Entry) : Prop where
  required : ∀ key ∈ form.required, ∃ t, (stored key entries).Says t
  optional : ∀ key ∈ form.optional,
    stored key entries = .null ∨ ∃ t, (stored key entries).Says t

/-- The key is required and missing, and no required one before it is. -/
def FirstMissing (entries : List Entry) (key : Text) : Prop :=
  ∃ before after, form.required = before ++ key :: after ∧
    (∀ k ∈ before, Entries.get? k entries ≠ none) ∧ Entries.get? key entries = none

/-- What a mapping holds under the keys of the form, in their order, with the octets decoded and
without nulls. -/
def excerpt (entries : List Entry) : List Entry :=
  (form.required ++ form.optional).filterMap fun key =>
    if stored key entries = .null then none
    else some (.text key, (stored key entries).decoded)

-- ---------------------------------------------------------------------------
-- Checks
-- ---------------------------------------------------------------------------

section
variable {ε α : Type} (missing : Text → ε) (invalid : ε)

/-- First whether every key is there, then what the keys hold. -/
def checks : Value → List (Check ε)
  | .map entries =>
    (form.required.map fun key => .ask (Entries.get? key entries ≠ none) (missing key)) ++
      [.ask (form.FilledBy entries) invalid]
  | _ => [.ask False invalid]

variable {form missing invalid} {decode : Value → Logged ε α}

theorem FilledBy.present {entries : List Entry} (h : form.FilledBy entries) :
    ∀ key ∈ form.required, Entries.get? key entries ≠ none := by
  intro key hk
  obtain ⟨t, ht⟩ := h.required key hk
  rw [Entries.get?_of_stored rfl ht.ne_null]
  exact nofun

theorem accepts_of_makes (hd : ∀ v, (decode v).Makes (form.checks missing invalid v)) (v : Value) :
    (∃ a, (decode v).result = .ok a) ↔ ∃ entries, v = .map entries ∧ form.FilledBy entries := by
  rw [(hd v).ok]
  cases v with
  | map entries =>
    simp only [checks, List.forall_mem_append, List.forall_mem_map, List.forall_mem_singleton,
      Check.passes_ask, Value.map.injEq, exists_eq_left']
    exact ⟨And.right, fun h => ⟨h.present, h⟩⟩
  | _ => simp [checks]

theorem misses_of_makes (hd : ∀ v, (decode v).Makes (form.checks missing invalid v))
    (hm : ∀ k l, missing k = missing l → k = l) (hi : ∀ k, missing k ≠ invalid) (v : Value)
    (key : Text) : (decode v).result = .error (missing key) ↔
      ∃ entries, v = .map entries ∧ form.FirstMissing entries key := by
  rw [hd v]
  cases v with
  | map entries =>
    have hn : ¬invalid = missing key := (hi key).symm
    simp only [checks, Check.firstFailure_append, Check.firstFailure_map_ask,
      Check.firstFailure_singleton, Check.ask, hn, and_false, or_false, Value.map.injEq,
      exists_eq_left']
    constructor
    · rintro ⟨before, k, after, h, hb, hk, he⟩
      rw [hm k key he] at h hk
      exact ⟨before, after, h, hb, not_not.1 hk⟩
    · rintro ⟨before, after, h, hb, hk⟩
      exact ⟨before, key, after, h, hb, not_not.2 hk, rfl⟩
  | _ => simp [checks, Check.ask, (hi key).symm]

theorem rejects_of_makes (hd : ∀ v, (decode v).Makes (form.checks missing invalid v))
    (hi : ∀ k, missing k ≠ invalid) (v : Value) : (decode v).result = .error invalid ↔
      ∀ entries, v = .map entries →
        (∀ key ∈ form.required, Entries.get? key entries ≠ none) ∧ ¬form.FilledBy entries := by
  rw [hd v]
  cases v with
  | map entries =>
    simp only [checks, Check.firstFailure_append, Check.firstFailure_map_ask,
      Check.firstFailure_singleton, List.forall_mem_map, Check.passes_ask, Check.ask, hi, and_false,
      and_true, exists_false, false_or, Value.map.injEq, forall_eq']
  | _ => simp [checks, Check.ask]

end

-- ---------------------------------------------------------------------------
-- Laws
-- ---------------------------------------------------------------------------

/-- Records that are stored in the form. `Made` tells those that a check can have made. -/
structure Governs {ε α : Type} (decode : Value → Logged ε α) (encode : α → Value) (Made : α → Prop)
    (missing : Text → ε) (invalid : ε) (message : ε → Text) : Prop where
  decode_encode : ∀ a, Made a → decode (encode a) = pure a
  made : ∀ v a, (decode v).result = .ok a → Made a
  encode_decoded : ∀ entries a, (decode (.map entries)).result = .ok a →
    encode a = .map (form.excerpt entries)
  accepts : ∀ v, (∃ a, (decode v).result = .ok a) ↔
    ∃ entries, v = .map entries ∧ form.FilledBy entries
  misses : ∀ v key, (decode v).result = .error (missing key) ↔
    ∃ entries, v = .map entries ∧ form.FirstMissing entries key
  /-- Anything else is invalid: no mapping, or one with every required key. -/
  rejects : ∀ v, (decode v).result = .error invalid ↔ ∀ entries, v = .map entries →
    (∀ key ∈ form.required, Entries.get? key entries ≠ none) ∧ ¬form.FilledBy entries
  names : ∀ key, ∃ lead, message (missing key) = lead ++ Quoted.text key

end Form

end ConnectionProfile
