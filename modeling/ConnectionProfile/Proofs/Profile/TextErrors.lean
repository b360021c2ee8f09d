import ConnectionProfile.Proofs.Json.LongIntegers
import ConnectionProfile.Profile.Document
import ConnectionProfile.Proofs.Logged

/-!
# Errors of texts

A profile that is read from a JSON text, or from the octets of one, is there in the end, or there is an
error of profiles. The one way around that is a long integer, which is given up before any check.
-/

namespace ConnectionProfile

namespace Profile

/-- The JSON text that is given, unless it is given by octets that cannot be decoded. -/
def givenText? : Value → Option Text
  | .text t => some t
  | .octets bs => Json.textOfOctets? bs
  | _ => none

/-- The value is a text or octets. -/
def IsTextual (v : Value) : Prop := (∃ t, v = .text t) ∨ ∃ bs, v = .octets bs

/-- There is a profile in the end, or an error of profiles. -/
def EndsAsPromised (v : Value) : Prop :=
  (∃ p, (ofText v).result = .ok p) ∨ ∃ e, (ofText v).result = .error (.profile e)

variable {v : Value} {e : ReadError}

theorem ofRead_error (he : ∀ c, e ≠ .profile c) {cause : Text} {x : Except Json.ReadError Value} :
    (readJson.ofRead cause x).result = .error e ↔
      x = .error .integerTooLong ∧ e = .integerTooLong := by
  rcases x with (_ | _) | w
  · have h := he (.decode .notJson)
    simp [readJson.ofRead, readJson.notJson, Logged.bind_result_error, Logged.log, Logged.fail,
      h.symm]
  · simp [readJson.ofRead, Logged.fail, eq_comm]
  · simp [readJson.ofRead]

theorem readJson_error (he : ∀ c, e ≠ .profile c) :
    (readJson v).result = .error e ↔
      (∃ t ∈ givenText? v, Json.HasLongInteger t) ∧ e = .integerTooLong ∨
        ¬IsTextual v ∧ e = .notText := by
  cases v with
  | text t =>
    rw [readJson, ofRead_error he, Json.read_integerTooLong]
    simp [givenText?, IsTextual]
  | octets bs =>
    rw [readJson]
    cases hbs : Json.textOfOctets? bs with
    | none =>
      have h := he (.decode .notJson)
      simp [givenText?, hbs, IsTextual, readJson.notJson, Logged.bind_result_error, Logged.log,
        Logged.fail, h.symm]
    | some t =>
      dsimp only
      rw [ofRead_error he, Json.read_integerTooLong]
      simp [givenText?, hbs, IsTextual]
  | _ => simp [readJson, givenText?, IsTextual, Logged.fail, eq_comm]

/-- After reading only errors of profiles are left. -/
theorem ofText_error (he : ∀ c, e ≠ .profile c) :
    (ofText v).result = .error e ↔
      (∃ t ∈ givenText? v, Json.HasLongInteger t) ∧ e = .integerTooLong ∨
        ¬IsTextual v ∧ e = .notText := by
  rw [ofText, Logged.bind_result_error, ← readJson_error he]
  refine or_iff_left_iff_imp.2 ?_
  rintro ⟨w, -, hw⟩
  obtain ⟨c, -, rfl⟩ := Logged.mapError_error.1 hw
  exact absurd rfl (he c)

theorem ofText_integerTooLong :
    (ofText v).result = .error .integerTooLong ↔ ∃ t ∈ givenText? v, Json.HasLongInteger t :=
  (ofText_error (by simp)).trans (by simp)

theorem ofText_notText : (ofText v).result = .error .notText ↔ ¬IsTextual v :=
  (ofText_error (by simp)).trans (by simp)

theorem endsAsPromised_iff_ne :
    EndsAsPromised v ↔ (ofText v).result ≠ .error .notText ∧
      (ofText v).result ≠ .error .integerTooLong := by
  unfold EndsAsPromised
  rcases (ofText v).result with (c | _ | _) | p <;> simp

/-- A text or octets end as promised if and only if there is no long integer where a value may start.
If there is one, that is the error. -/
theorem endsAsPromised_iff (v : Value) :
    (EndsAsPromised v ↔ IsTextual v ∧ ∀ t ∈ givenText? v, ¬Json.HasLongInteger t) ∧
    ((ofText v).result = .error .integerTooLong ↔ ∃ t ∈ givenText? v, Json.HasLongInteger t) := by
  refine ⟨?_, ofText_integerTooLong⟩
  rw [endsAsPromised_iff_ne, ne_eq, ne_eq, ofText_notText, ofText_integerTooLong, not_not]
  simp only [not_exists, not_and]

/-- One digit too many. -/
theorem not_endsAsPromised_long_integer :
    let t : Text := List.replicate 4301 '1'
    IsTextual (.text t) ∧ ¬EndsAsPromised (.text t) := by
  intro t
  have hlong : Json.IsLongInteger t := by
    refine ⟨t, .inl rfl, fun d hd => ?_, ?_, ?_⟩
    · rw [List.eq_of_mem_replicate hd]
      rfl
    · simp +decide [t]
    · rw [List.length_replicate]
      decide
  have ht : Json.HasLongInteger t :=
    ⟨[], t, [], .value [], by simp, hlong, ⟨rfl, rfl, rfl⟩, Json.Reader.run_nil _, trivial⟩
  refine ⟨.inl ⟨t, rfl⟩, fun h => ?_⟩
  exact (endsAsPromised_iff_ne.1 h).2 (ofText_integerTooLong.2 ⟨t, rfl, ht⟩)

end Profile

end ConnectionProfile
