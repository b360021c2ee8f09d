import ConnectionProfile.Profile.Document
import ConnectionProfile.Proofs.Uri.FinalSlash

/-!
# Decoding documents of profiles

`decode_toDocument`: the document of a profile decodes to the parts that it was made of, and goes
on to the checks that every new profile passes through. `create_ok` says what these let pass.
-/

namespace ConnectionProfile

-- ---------------------------------------------------------------------------
-- Credentials and pins
-- ---------------------------------------------------------------------------

namespace Credentials

/-- Credentials as a check makes them: texts, and null for an optional field that is absent. -/
def IsValidated (c : Credentials) : Prop := ∃ u h a d r, c = ofTexts u h a d r

theorem decode_toDocument {c : Credentials} (h : c.IsValidated) :
    decode c.toDocument = pure c := by
  obtain ⟨u, h, a, d, r, rfl⟩ := h
  cases d <;> cases r <;> rfl

theorem check_ok {field : FieldName → Option Value} {c : Credentials} (h : check field = .ok c) :
    c.IsValidated := by
  unfold check at h
  simp only at h
  split at h
  · cases h
    exact ⟨_, _, _, _, _, rfl⟩
  · cases h

theorem decode_ok {v : Value} {c : Credentials} (h : (decode v).result = .ok c) :
    c.IsValidated := by
  cases v with
  | map entries =>
    simp only [decode, Logged.bind_result_ok] at h
    obtain ⟨_, -, _, -, _, -, h⟩ := h
    split at h
    · rename_i hc
      cases h
      exact check_ok hc
    · cases h
  | _ => cases h

end Credentials

theorem Pin.decode_toDocument (p : Pin) : decode p.toDocument = pure p := rfl

-- ---------------------------------------------------------------------------
-- Profiles
-- ---------------------------------------------------------------------------

namespace Profile

theorem decodePinList_toDocument (pins : List Pin) :
    decodePinList (pins.map Pin.toDocument) = pure pins := by
  induction pins with
  | nil => rfl
  | cons p pins ih =>
    simp [decodePinList, Pin.decode_toDocument, ih]

/-- The credentials of the profile, if there are any, are as a check makes them. -/
def HasValidatedCredentials (p : Profile) : Prop := ∀ c, p.credentials = some c → c.IsValidated

@[simp] theorem get?_serverKey (p : Profile) :
    Entries.get? serverKey p.toEntries = some (.text p.server.plain) := by
  simp [toEntries, Entries.get?]

@[simp] theorem get?_identityKey (p : Profile) :
    Entries.get? identityKey p.toEntries = some (.text p.effectiveIdentity.plain) := by
  simp +decide [toEntries, Entries.get?]

@[simp] theorem get?_credentialsKey (p : Profile) :
    Entries.get? credentialsKey p.toEntries = p.credentials.map Credentials.toDocument := by
  cases h : p.credentials <;> simp +decide [toEntries, Entries.get?, credentialsEntry, h]

@[simp] theorem get?_pinsKey (p : Profile) :
    Entries.get? pinsKey p.toEntries = some (.list (p.pins.map Pin.toDocument)) := by
  cases h : p.credentials <;> simp +decide [toEntries, Entries.get?, credentialsEntry, h]

theorem requireMapping_ok {v : Value} {entries : List Entry} :
    (requireMapping v).result = .ok entries ↔ v = .map entries := by
  cases v <;> simp [requireMapping, Logged.bind_result_ok]

section
variable {p : Profile} {s i : Text}

theorem decodeServer_toEntries (hs : p.server = .text s) : decodeServer p.toEntries = pure s := by
  simp [decodeServer, hs, Value.plain]

theorem decodeIdentity_toEntries (hi : p.effectiveIdentity = .text i) :
    decodeIdentity p.toEntries = pure (some i) := by
  simp [decodeIdentity, Entries.find?, hi, Value.plain]

theorem decodeCredentials_toEntries (hc : p.HasValidatedCredentials) :
    decodeCredentials p.toEntries = pure p.credentials := by
  cases h : p.credentials with
  | none => simp [decodeCredentials, Entries.find?, h]
  | some c =>
    have hd : Credentials.decode (.map c.toEntries) = pure c :=
      Credentials.decode_toDocument (hc c h)
    simp [decodeCredentials, Entries.find?, h, Credentials.toDocument, hd]

theorem decodePins_toEntries (p : Profile) : decodePins p.toEntries = pure p.pins := by
  simp [decodePins, Entries.find?, decodePinList_toDocument]

theorem decodeParts_toDocument (hs : p.server = .text s) (hi : p.effectiveIdentity = .text i)
    (hc : p.HasValidatedCredentials) :
    decodeParts p.toDocument = pure ⟨s, some i, p.credentials, p.pins⟩ := by
  simp only [decodeParts, toDocument, requireMapping, Logged.pure_bind, decodeServer_toEntries hs,
    decodeIdentity_toEntries hi, decodeCredentials_toEntries hc, decodePins_toEntries]

theorem decode_toDocument (hs : p.server = .text s) (hi : p.effectiveIdentity = .text i)
    (hc : p.HasValidatedCredentials) :
    decode p.toDocument =
      (create (.text s) (.text i) p.credentials p.pins).mapError .invalid := by
  simp [decode, decodeParts_toDocument hs hi hc, Value.ofTextOption]

end

-- ---------------------------------------------------------------------------
-- New profiles
-- ---------------------------------------------------------------------------

@[simp] theorem refuse_result {α : Type} (address : Value) (text : Text) (cause : InvalidProfile) :
    (refuse address text cause : Logged InvalidProfile α).result = .error (refusal address cause) :=
  rfl

theorem requireServer_ok {v : Value} {s : Text} :
    (requireServer v).result = .ok s ↔ v = .text s ∧ Uri.hasSupportedScheme v = true := by
  cases v with
  | text uri =>
    by_cases h : Uri.hasSupportedScheme (.text uri) = true
    · simp [requireServer, h]
    · simp [requireServer, requireServer.refuseServer, h]
  | _ => simp [requireServer, requireServer.refuseServer]

theorem requireIdentity_ok {v : Value} {i : Option Text} :
    (requireIdentity v).result = .ok i ↔ v = .ofTextOption i := by
  cases v <;> cases i <;> simp [requireIdentity, Value.ofTextOption]

theorem normalizeIdentity_ok {i j : Option Text} :
    (normalizeIdentity i).result = .ok j ↔
      (∀ uri ∈ i, Uri.CanNormalize uri) ∧ j = i.map (Text.withoutFinal '/') := by
  cases i with
  | none => simp [normalizeIdentity, eq_comm]
  | some uri =>
    simp only [normalizeIdentity, Logged.bind_result_ok, Uri.normalize_ok, Logged.pure_result_ok,
      Option.mem_some_iff, forall_eq', Option.map_some]
    constructor
    · rintro ⟨_, ⟨h, rfl⟩, rfl⟩
      exact ⟨h, rfl⟩
    · rintro ⟨h, rfl⟩
      exact ⟨_, ⟨h, rfl⟩, rfl⟩

/-- What two addresses make, when they make a profile. -/
theorem create_ok {server identity : Value} {c : Option Credentials} {pins : List Pin}
    {p : Profile} : (create server identity c pins).result = .ok p ↔
      ∃ s i, server = .text s ∧ identity = .ofTextOption i ∧ Uri.hasSupportedScheme server = true ∧
        Uri.CanNormalize s ∧ (∀ uri ∈ i, Uri.CanNormalize uri) ∧
        p = ⟨.text (s.withoutFinal '/'), .ofTextOption (i.map (Text.withoutFinal '/')), c,
          pins⟩ := by
  simp only [create, Logged.bind_result_ok, requireServer_ok, requireIdentity_ok, Uri.normalize_ok,
    normalizeIdentity_ok, Logged.pure_result_ok]
  constructor
  · rintro ⟨s, ⟨rfl, hs⟩, i, rfl, _, ⟨hn, rfl⟩, _, ⟨hi, rfl⟩, rfl⟩
    exact ⟨s, i, rfl, rfl, hs, hn, hi, rfl⟩
  · rintro ⟨s, i, rfl, rfl, hs, hn, hi, rfl⟩
    exact ⟨s, ⟨rfl, hs⟩, i, rfl, _, ⟨hn, rfl⟩, _, ⟨hi, rfl⟩, rfl⟩

theorem decodeParts_ok {v : Value} {parts : Parts} (h : (decodeParts v).result = .ok parts) :
    ∀ c, parts.credentials = some c → c.IsValidated := by
  simp only [decodeParts, Logged.bind_result_ok, Logged.pure_result_ok] at h
  obtain ⟨entries, -, _, -, _, -, c, hc, _, -, rfl⟩ := h
  unfold decodeCredentials at hc
  split at hc
  · cases hc
    simp
  · simp only [Logged.bind_result_ok, Logged.mapError_ok, Logged.pure_result_ok] at hc
    obtain ⟨d, hd, rfl⟩ := hc
    rintro _ ⟨⟩
    exact Credentials.decode_ok hd
  · cases hc

/-- A decoded profile is a new one with validated credentials. -/
theorem decode_ok {v : Value} {p : Profile} (h : (decode v).result = .ok p) :
    ∃ server identity c pins, (create server identity c pins).result = .ok p ∧
      ∀ d, c = some d → d.IsValidated := by
  simp only [decode, Logged.bind_result_ok, Logged.mapError_ok] at h
  obtain ⟨parts, hp, hc⟩ := h
  exact ⟨_, _, _, _, hc, decodeParts_ok hp⟩

theorem hasValidatedCredentials_of_decode {v : Value} {p : Profile}
    (h : (decode v).result = .ok p) : p.HasValidatedCredentials := by
  obtain ⟨_, _, _, _, hc, hd⟩ := decode_ok h
  obtain ⟨_, _, -, -, -, -, -, rfl⟩ := create_ok.1 hc
  exact hd

theorem ofText_ok {v : Value} {p : Profile} (h : (ofText v).result = .ok p) :
    ∃ w, (decode w).result = .ok p := by
  simp only [ofText, Logged.bind_result_ok, Logged.mapError_ok] at h
  obtain ⟨w, -, hw⟩ := h
  exact ⟨w, hw⟩

end Profile

end ConnectionProfile
