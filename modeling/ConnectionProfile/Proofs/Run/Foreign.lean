import ConnectionProfile.Proofs.Overrides.Merged
import ConnectionProfile.Proofs.Run.Status

/-!
# Foreign errors in runs

The foreign error that a run is said to have is one that it records, with the name of the error in the
place of its words. So the words have a record to stand in.
-/

namespace ConnectionProfile

open Overrides (stored)

open Logged

-- ---------------------------------------------------------------------------
-- Decoding
-- ---------------------------------------------------------------------------

namespace Credentials

theorem require_ne_invalidFormat {field : FieldName} {entries : List Entry} :
    (require field entries).result ≠ .error .invalidFormat := by
  unfold require
  cases Entries.get? field.key entries <;> exact nofun

theorem foreign?_recorded {v : Value} {e : ForeignError} (h : foreign? v = some e) :
    e.record ∈ (decode v).records := by
  cases v with
  | map fields =>
    simp only [foreign?] at h
    split at h
    · rename_i hd
      cases h
      simp only [decode, bind_result_error] at hd
      obtain hu | ⟨_, hu, hh | ⟨_, hh, ha | ⟨_, ha, hd⟩⟩⟩ := hd
      · exact absurd hu require_ne_invalidFormat
      · exact absurd hh require_ne_invalidFormat
      · exact absurd ha require_ne_invalidFormat
      · refine mem_bind_of_ok hu (mem_bind_of_ok hh (mem_bind_of_ok ha ?_))
        cases hf : ofFields fields with
        | ok c =>
          rw [hf] at hd
          cases hd
        | error problems => exact List.mem_singleton_self _
    · cases h
  | _ =>
    cases h
    exact List.mem_singleton_self _

end Credentials

namespace Pin

theorem require_ne_invalidFormat {key : Text} {entries : List Entry} :
    (require key entries).result ≠ .error .invalidFormat := by
  unfold require
  cases Entries.get? key entries <;> exact nofun

theorem foreign?_recorded {v : Value} {e : ForeignError} (h : foreign? v = some e) :
    e.record ∈ (decode v).records := by
  cases v with
  | map entries =>
    simp only [foreign?] at h
    split at h
    · rename_i hd
      cases h
      simp only [decode, bind_result_error] at hd
      obtain hh | ⟨hostname, hh, hk | ⟨hash, hk, hd⟩⟩ := hd
      · exact absurd hh require_ne_invalidFormat
      · exact absurd hk require_ne_invalidFormat
      · refine mem_bind_of_ok hh (mem_bind_of_ok hk ?_)
        cases hc : check (some hostname) (some hash) with
        | ok p =>
          rw [hc] at hd
          cases hd
        | error problems => exact List.mem_singleton_self _
    · cases h
  | _ =>
    cases h
    exact List.mem_singleton_self _

end Pin

namespace Profile

theorem foreignOfFirst?_recorded {vs : List Value} {e : ForeignError}
    (h : Pin.foreignOfFirst? vs = some e) : e.record ∈ (decodePinList vs).records := by
  induction vs with
  | nil => cases h
  | cons v vs ih =>
    rw [Pin.foreignOfFirst?] at h
    split at h
    · rename_i p hp
      exact mem_bind_of_ok (mapError_ok.2 hp) (mem_bind_of_mem (ih h))
    · exact mem_bind_of_mem (Pin.foreign?_recorded h)

variable {entries : List Entry} {e : ForeignError}

theorem decodeCredentials_recorded {cause : Credentials.DecodeError}
    (hd : (decodeCredentials entries).result = .error (.credentials cause))
    (h : Credentials.foreign? (stored credentialsKey entries) = some e) :
    e.record ∈ (decodeCredentials entries).records := by
  rw [decodeCredentials, Entries.find?_eq] at hd ⊢
  cases hv : stored credentialsKey entries with
  | map fields =>
    rw [hv] at h
    exact mem_bind_of_mem (Credentials.foreign?_recorded h)
  | _ => simp [hv, fail] at hd

theorem decodePins_recorded {cause : Pin.DecodeError}
    (hd : (decodePins entries).result = .error (.pin cause))
    (h : Pin.foreignOfFirst? (stored pinsKey entries).items = some e) :
    e.record ∈ (decodePins entries).records := by
  rw [decodePins, Entries.find?_eq] at hd ⊢
  cases hv : stored pinsKey entries with
  | list vs =>
    rw [hv] at h
    exact foreignOfFirst?_recorded h
  | _ => simp [hv, fail] at hd

theorem decodeServer_ne {cause : DecodeError} (h : cause ≠ .missingServer ∧ cause ≠ .serverNotText) :
    (decodeServer entries).result ≠ .error cause := by
  unfold decodeServer
  split
  · rintro ⟨⟩
    exact h.1 rfl
  · exact nofun
  · rintro ⟨⟩
    exact h.2 rfl

theorem decodeIdentity_ne {cause : DecodeError} (h : cause ≠ .identityNotText) :
    (decodeIdentity entries).result ≠ .error cause := by
  unfold decodeIdentity
  split
  · exact nofun
  · exact nofun
  · rintro ⟨⟩
    exact h rfl

theorem decodeCredentials_error {cause : DecodeError}
    (h : (decodeCredentials entries).result = .error cause) :
    cause = .credentialsNotMapping ∨ ∃ c, cause = .credentials c := by
  unfold decodeCredentials at h
  split at h
  · cases h
  · simp only [bind_result_error, mapError_error, pure_result, reduceCtorEq, and_false, exists_false,
      or_false] at h
    obtain ⟨c, -, rfl⟩ := h
    exact .inr ⟨c, rfl⟩
  · cases h
    exact .inl rfl

theorem decodePinList_error {vs : List Value} {cause : DecodeError}
    (h : (decodePinList vs).result = .error cause) : ∃ c, cause = .pin c := by
  induction vs with
  | nil => cases h
  | cons v vs ih =>
    simp only [decodePinList, bind_result_error, mapError_error, pure_result, reduceCtorEq, and_false,
      exists_false, or_false] at h
    obtain ⟨c, -, rfl⟩ | ⟨_, -, h⟩ := h
    · exact ⟨c, rfl⟩
    · exact ih h

theorem decodePins_error {cause : DecodeError} (h : (decodePins entries).result = .error cause) :
    (∃ c, cause = .pin c) ∨ cause = .pinsNotList := by
  unfold decodePins at h
  split at h
  · cases h
  · exact .inl (decodePinList_error h)
  · cases h
    exact .inr rfl

/-- One part after the other is decoded, up to the first that fails. -/
theorem decodeParts_error {cause : DecodeError}
    (h : (decodeParts (.map entries)).result = .error cause) :
    (decodeServer entries).result = .error cause ∨
      ∃ s, (decodeServer entries).result = .ok s ∧
        ((decodeIdentity entries).result = .error cause ∨
          ∃ i, (decodeIdentity entries).result = .ok i ∧
            ((decodeCredentials entries).result = .error cause ∨
              ∃ c, (decodeCredentials entries).result = .ok c ∧
                (decodePins entries).result = .error cause)) := by
  simpa only [decodeParts, requireMapping, bind_result_error, pure_result, Except.ok.injEq,
    reduceCtorEq, and_false, exists_false, or_false, false_or, exists_eq_left'] using h

theorem foreign?_recorded (h : foreign? entries = some e) :
    e.record ∈ (decodeParts (.map entries)).records := by
  unfold foreign? at h
  split at h
  · rename_i hd
    obtain hs | ⟨_, hs, hi | ⟨_, hi, hc | ⟨_, hc, hp⟩⟩⟩ := decodeParts_error hd
    · exact absurd hs (decodeServer_ne ⟨nofun, nofun⟩)
    · exact absurd hi (decodeIdentity_ne nofun)
    · exact mem_bind_of_ok rfl (mem_bind_of_ok hs (mem_bind_of_ok hi
        (mem_bind_of_mem (decodeCredentials_recorded hc h))))
    · obtain ⟨_, hp⟩ | hp := decodePins_error hp <;> cases hp
  · rename_i hd
    obtain hs | ⟨_, hs, hi | ⟨_, hi, hc | ⟨_, hc, hp⟩⟩⟩ := decodeParts_error hd
    · exact absurd hs (decodeServer_ne ⟨nofun, nofun⟩)
    · exact absurd hi (decodeIdentity_ne nofun)
    · obtain hc | ⟨_, hc⟩ := decodeCredentials_error hc <;> cases hc
    · exact mem_bind_of_ok rfl (mem_bind_of_ok hs (mem_bind_of_ok hi (mem_bind_of_ok hc
        (mem_bind_of_mem (decodePins_recorded hp h)))))
  · cases h

end Profile

-- ---------------------------------------------------------------------------
-- Runs
-- ---------------------------------------------------------------------------

namespace Run

variable {read : Path → Except ReadProblem Octets} {o : Options} {token : Option Text}

theorem mem_ofLogged {x : Logged RunError Text} {r : Record} (h : r ∈ x.records) :
    r ∈ (ofLogged x).records := by
  unfold ofLogged
  split
  · exact h
  · split
    · exact List.mem_append_left _ h
    · exact h

theorem message_mem_ofLogged {x : Logged RunError Text} {e : RunError} {message : Text}
    (he : x.result = .error e) (hm : e.message? = some message) :
    ⟨.error, .tool, message⟩ ∈ (ofLogged x).records := by
  simp only [ofLogged, he, hm]
  exact List.mem_append_right _ (List.mem_singleton_self _)

/-- The foreign error of a run is recorded with its name, unless the log drops it. -/
theorem foreign?_recorded {e : ForeignError} (h : foreign? read o token = some e) :
    e.record ∈ (ofLogged (resolved read o token)).records := by
  unfold foreign? at h
  split at h
  · rename_i entries hm
    have hd : e.record ∈ (Profile.decode (.map entries)).records :=
      mem_bind_of_mem (Profile.foreign?_recorded h)
    exact mem_ofLogged (mem_bind_of_mem (mem_bind_of_ok hm (mem_bind_of_mem hd)))
  · rename_i path problem hm
    obtain ⟨name, hn, rfl⟩ := Option.map_eq_some_iff.1 h
    refine message_mem_ofLogged (resolved_error.2 (bind_result_error.2 (.inl hm))) ?_
    rw [RunError.message?, hn]
    rfl
  · rename_i path fault hm
    obtain ⟨name, hn, h⟩ := Option.bind_eq_some_iff.1 h
    obtain ⟨content, -, ⟨⟩⟩ := Option.bind_eq_some_iff.1 h
    refine message_mem_ofLogged (resolved_error.2 (bind_result_error.2 (.inl hm))) ?_
    rw [RunError.message?, hn]
    rfl
  · cases h

end Run

end ConnectionProfile
