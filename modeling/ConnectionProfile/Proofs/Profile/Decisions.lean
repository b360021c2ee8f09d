import ConnectionProfile.Profile.Complaints
import ConnectionProfile.Proofs.Profile.Creation
import ConnectionProfile.Proofs.Profile.Fields

/-!
# Decisions on documents

A value decodes to a profile if and only if it passes all checks of a fixed list, and otherwise the
first that it does not pass is told. Pins are checked one by one. The checks of the addresses come last,
when everything has been decoded.
-/

namespace ConnectionProfile

open Check (FirstFailure)
open Logged
open Overrides (stored)

namespace Profile

-- ---------------------------------------------------------------------------
-- The checks of a document
-- ---------------------------------------------------------------------------

def serverChecks (entries : List Entry) : List (Check DecodeError) := [
  .ask (Entries.get? serverKey entries ≠ none) .missingServer,
  .ask (∃ uri, Entries.get? serverKey entries = some (.text uri)) .serverNotText]

def identityChecks (identity : Value) : List (Check DecodeError) := [
  .onlyIf (identity ≠ .null) (.ask (∃ uri, identity = .text uri) .identityNotText)]

def credentialsChecks (credentials : Value) : List (Check DecodeError) := [
  .onlyIf (credentials ≠ .null) (.ask (∃ fields, credentials = .map fields) .credentialsNotMapping),
  .onlyIf (credentials ≠ .null) (.run ((Credentials.decode credentials).mapError .credentials))]

def pinChecks (vs : List Value) : List (Check DecodeError) :=
  vs.map fun v => .run ((Pin.decode v).mapError .pin)

def pinsChecks (pins : Value) : List (Check DecodeError) :=
  .onlyIf (pins ≠ .null) (.ask (∃ vs, pins = .list vs) .pinsNotList) :: pinChecks pins.items

/-- The checks of a value in their order, before those of the addresses. -/
def decodingChecks (v : Value) : List (Check DecodeError) :=
  [.ask (∃ entries, v = .map entries) .notMapping] ++ serverChecks v.entries ++
    identityChecks (stored identityKey v.entries) ++
    credentialsChecks (stored credentialsKey v.entries) ++ pinsChecks (stored pinsKey v.entries)

variable {entries : List Entry} {v : Value}

theorem makes_requireMapping (v : Value) :
    (requireMapping v).Makes [.ask (∃ entries, v = .map entries) .notMapping] := by
  intro e
  cases v <;> simp [requireMapping, logShowing, bind_result_error, fail, Check.ask]

theorem makes_decodeServer (entries : List Entry) :
    (decodeServer entries).Makes (serverChecks entries) := by
  intro e
  unfold decodeServer serverChecks
  cases Entries.get? serverKey entries with
  | none => simp [bind_result_error, log, fail, Check.ask]
  | some v => cases v <;> simp [fail, Check.ask]

theorem makes_decodeIdentity (entries : List Entry) :
    (decodeIdentity entries).Makes (identityChecks (stored identityKey entries)) := by
  intro e
  rw [decodeIdentity, Entries.find?_eq]
  cases stored identityKey entries <;> simp [identityChecks, fail, Check.ask, Check.onlyIf]

theorem makes_decodeCredentials (entries : List Entry) :
    (decodeCredentials entries).Makes (credentialsChecks (stored credentialsKey entries)) := by
  intro e
  rw [decodeCredentials, Entries.find?_eq]
  cases stored credentialsKey entries with
  | map fields =>
    have h := ((makes_run ((Credentials.decode (.map fields)).mapError .credentials)).bind_pure
      some) e
    simpa [credentialsChecks, Check.ask, Check.onlyIf, Check.run] using h
  | _ => simp [credentialsChecks, fail, Check.ask, Check.onlyIf]

theorem makes_decodePinList (vs : List Value) : (decodePinList vs).Makes (pinChecks vs) := by
  induction vs with
  | nil => exact makes_pure _
  | cons v vs ih => exact (makes_run _).bind fun pin _ => ih.bind_pure (pin :: ·)

theorem makes_decodePins (entries : List Entry) :
    (decodePins entries).Makes (pinsChecks (stored pinsKey entries)) := by
  intro e
  rw [decodePins, Entries.find?_eq]
  cases stored pinsKey entries with
  | list vs =>
    simpa [pinsChecks, Value.items, Check.ask, Check.onlyIf] using makes_decodePinList vs e
  | _ => simp [pinsChecks, pinChecks, Value.items, fail, Check.ask, Check.onlyIf]

theorem makes_decodeParts (v : Value) : (decodeParts v).Makes (decodingChecks v) := by
  simp only [decodingChecks, List.append_assoc]
  refine (makes_requireMapping v).bind fun entries he => ?_
  obtain rfl := requireMapping_ok.1 he
  exact (makes_decodeServer entries).bind fun _ _ => (makes_decodeIdentity entries).bind fun _ _ =>
    (makes_decodeCredentials entries).bind fun _ _ => (makes_decodePins entries).bind_pure _

-- ---------------------------------------------------------------------------
-- All checks
-- ---------------------------------------------------------------------------

/-- The addresses are those that the document holds. -/
def storedAddressChecks (v : Value) : List (Check InvalidProfile) :=
  addressChecks (stored serverKey v.entries) (stored identityKey v.entries)

theorem stored_of_decodeParts {parts : Parts} (h : (decodeParts v).result = .ok parts) :
    stored serverKey v.entries = .text parts.server ∧
      stored identityKey v.entries = .ofTextOption parts.identity := by
  simp only [decodeParts, bind_result_ok, pure_result_ok] at h
  obtain ⟨entries, he, s, hs, i, hi, c, -, pins, -, rfl⟩ := h
  obtain rfl := requireMapping_ok.1 he
  exact ⟨decodeServer_ok.1 hs, decodeIdentity_ok.1 hi⟩

theorem makes_decode (v : Value) :
    (decode v).Makes ((decodingChecks v).map (Check.under Error.decode) ++
      (storedAddressChecks v).map (Check.under Error.invalid)) := by
  refine ((makes_decodeParts v).mapError Error.decode).bind fun parts hp => ?_
  obtain ⟨hs, hi⟩ := stored_of_decodeParts (mapError_ok.1 hp)
  rw [storedAddressChecks, hs, hi]
  exact (makes_create _ _ _ _).mapError Error.invalid

/-- What a mapping has to hold to make a profile. -/
structure Describes (entries : List Entry) : Prop where
  server : ∃ uri, Entries.get? serverKey entries = some (.text uri)
  identity : stored identityKey entries = .null ∨ ∃ uri, stored identityKey entries = .text uri
  credentials : stored credentialsKey entries = .null ∨
    ∃ fields c, stored credentialsKey entries = .map fields ∧
      (Credentials.decode (.map fields)).result = .ok c
  pins : stored pinsKey entries = .null ∨
    ∃ vs, stored pinsKey entries = .list vs ∧ ∀ v ∈ vs, ∃ p, (Pin.decode v).result = .ok p
  addresses : ∀ c pins, ∃ p,
    (create (stored serverKey entries) (stored identityKey entries) c pins).result = .ok p

theorem serverChecks_pass : (∀ c ∈ serverChecks entries, c.Passes) ↔
    ∃ uri, Entries.get? serverKey entries = some (.text uri) := by
  simp only [serverChecks, List.forall_mem_cons, Check.passes_ask, List.not_mem_nil, false_implies,
    implies_true, and_true, and_iff_right_iff_imp]
  rintro ⟨uri, h⟩
  simp [h]

theorem identityChecks_pass : (∀ c ∈ identityChecks v, c.Passes) ↔
    v = .null ∨ ∃ uri, v = .text uri := by
  simp [identityChecks, or_iff_not_imp_left]

theorem credentialsChecks_pass : (∀ c ∈ credentialsChecks v, c.Passes) ↔
    v = .null ∨ ∃ fields c, v = .map fields ∧ (Credentials.decode (.map fields)).result = .ok c := by
  cases v <;> simp [credentialsChecks, mapError_ok]

theorem pinsChecks_pass : (∀ c ∈ pinsChecks v, c.Passes) ↔
    v = .null ∨ ∃ vs, v = .list vs ∧ ∀ w ∈ vs, ∃ p, (Pin.decode w).result = .ok p := by
  cases v <;> simp [pinsChecks, pinChecks, Value.items, mapError_ok]

theorem addressChecks_pass {server identity : Value} :
    (∀ c ∈ addressChecks server identity, c.Passes) ↔
      ∀ c pins, ∃ p, (create server identity c pins).result = .ok p :=
  ⟨fun h c pins => (makes_create server identity c pins).ok.2 h,
    fun h => (makes_create server identity none []).ok.1 (h none [])⟩

/-- A value passes the checks when it is a mapping that describes a profile. -/
theorem checks_pass (v : Value) :
    ((∀ c ∈ decodingChecks v, c.Passes) ∧ ∀ c ∈ storedAddressChecks v, c.Passes) ↔
      ∃ entries, v = .map entries ∧ Describes entries := by
  simp only [decodingChecks, storedAddressChecks, List.forall_mem_append, serverChecks_pass,
    identityChecks_pass, credentialsChecks_pass, pinsChecks_pass, addressChecks_pass,
    List.forall_mem_singleton, Check.passes_ask]
  constructor
  · rintro ⟨⟨⟨⟨⟨⟨entries, rfl⟩, hs⟩, hi⟩, hc⟩, hp⟩, ha⟩
    exact ⟨entries, rfl, hs, hi, hc, hp, ha⟩
  · rintro ⟨entries, rfl, h⟩
    exact ⟨⟨⟨⟨⟨⟨entries, rfl⟩, h.server⟩, h.identity⟩, h.credentials⟩, h.pins⟩, h.addresses⟩

/-- A value makes a profile if and only if it is a mapping that describes one. Otherwise there is one
error: that of the first check of the document that does not pass, and one of the addresses only when
everything has been decoded. -/
theorem decode_decides (v : Value) :
    ((∃ p, (decode v).result = .ok p) ↔ ∃ entries, v = .map entries ∧ Describes entries) ∧
    (∀ e, (decode v).result = .error (.decode e) ↔ FirstFailure (decodingChecks v) e) ∧
    ∀ e, (decode v).result = .error (.invalid e) ↔
      (∀ c ∈ decodingChecks v, c.Passes) ∧ FirstFailure (storedAddressChecks v) e := by
  have hm := makes_decode v
  refine ⟨?_, fun e => ?_, fun e => ?_⟩
  · rw [hm.ok, List.forall_mem_append, List.forall_mem_map, List.forall_mem_map]
    simp only [Check.passes_under]
    exact checks_pass v
  · rw [hm, Check.firstFailure_append, Check.firstFailure_under, Check.firstFailure_under]
    simp
  · rw [hm, Check.firstFailure_append, Check.firstFailure_under, Check.firstFailure_under]
    simp

end Profile

end ConnectionProfile
