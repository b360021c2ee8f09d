import ConnectionProfile.Proofs.Profile.Decoding
import ConnectionProfile.Proofs.Value.Document

/-!
# Documents of profiles

The document of a profile is one in the sense of `Value.IsDocument` when its credentials hold texts
and nulls. Decoding asks for values by their keys, so it does not see the order of the members, and
a change of the texts of a profile is one of the texts of its document.
-/

namespace ConnectionProfile

namespace Credentials

/-- Every field holds a text or null. -/
def HoldsTexts (c : Credentials) : Prop := ∀ field, c.get field = .null ∨ ∃ t, c.get field = .text t

theorem IsValidated.holdsTexts {c : Credentials} (h : c.IsValidated) : c.HoldsTexts := by
  obtain ⟨u, h, a, d, r, rfl⟩ := h
  intro field
  cases field with
  | userId | homeServer | accessToken => exact .inr ⟨_, rfl⟩
  | deviceId => cases d <;> simp [get, ofTexts, Value.ofTextOption]
  | refreshToken => cases r <;> simp [get, ofTexts, Value.ofTextOption]

theorem mem_toEntries {c : Credentials} {e : Entry} (h : e ∈ c.toEntries) :
    ∃ field, e = c.entry field := by
  simp only [toEntries, optionalEntry, List.mem_append, List.mem_cons, List.not_mem_nil,
    or_false] at h
  rcases h with ((h | h | h) | h) | h
  · exact ⟨_, h⟩
  · exact ⟨_, h⟩
  · exact ⟨_, h⟩
  · split at h
    · cases h
    · exact ⟨_, List.mem_singleton.1 h⟩
  · split at h
    · cases h
    · exact ⟨_, List.mem_singleton.1 h⟩

theorem isKeyword_key (field : FieldName) : field.key.isKeyword = true := by
  cases field <;> rfl

theorem keys_toEntries_nodup (c : Credentials) : (Entries.keys c.toEntries).Nodup := by
  cases hr : c.refreshToken.isNull <;> cases hd : c.deviceId.isNull <;>
    simp +decide [Entries.keys, toEntries, entry, optionalEntry, get, hr, hd]

theorem toDocument_isDocument {nulls : Bool} {c : Credentials}
    (h : ∀ e ∈ c.toEntries, e.2.IsDocument nulls) : c.toDocument.IsDocument nulls := by
  refine ⟨c.keys_toEntries_nodup, Value.areMembers_iff.2 fun e he => ⟨?_, h e he⟩⟩
  obtain ⟨field, rfl⟩ := mem_toEntries he
  exact ⟨_, rfl, isKeyword_key field⟩

/-- Validated credentials write no nulls: fields without a value are left out. -/
theorem IsValidated.toDocument_isDocument {c : Credentials} (h : c.IsValidated) :
    c.toDocument.IsDocument false := by
  obtain ⟨u, h, a, d, r, rfl⟩ := h
  apply Credentials.toDocument_isDocument
  cases d <;> cases r <;>
    simp [toEntries, entry, optionalEntry, get, ofTexts, Value.ofTextOption, Value.isNull,
      Value.IsDocument]

/-- Texts and nulls are the same in every order. -/
theorem arrangedMembers_toEntries {c : Credentials} (h : c.HoldsTexts) (sort : Bool) :
    Value.arrangedMembers sort c.toEntries = c.toEntries := by
  rw [Value.arrangedMembers_eq_map]
  refine (List.map_congr_left fun e he => ?_).trans (List.map_id _)
  obtain ⟨field, rfl⟩ := mem_toEntries he
  obtain hf | ⟨t, hf⟩ := h field <;> simp only [entry, hf, Value.arranged, id]

theorem decode_congr {es fs : List Entry} (h : ∀ key, Entries.get? key es = Entries.get? key fs) :
    decode (.map es) = decode (.map fs) := by
  simp only [decode, require, ofFields, h]

theorem get?_arranged {c : Credentials} (h : c.HoldsTexts) (sort : Bool) (key : Text) :
    Entries.get? key (Entries.arrange sort (Value.arrangedMembers sort c.toEntries)) =
      Entries.get? key c.toEntries := by
  rw [arrangedMembers_toEntries h, Entries.get?_arrange sort c.keys_toEntries_nodup]

theorem decode_arranged {c : Credentials} (h : c.HoldsTexts) (sort : Bool) :
    decode (c.toDocument.arranged sort) = decode c.toDocument := by
  simp only [toDocument, Value.arranged]
  exact decode_congr (get?_arranged h sort)

end Credentials

namespace Pin

theorem toDocument_isDocument (nulls : Bool) (p : Pin) : p.toDocument.IsDocument nulls := by
  refine ⟨by simp +decide [toEntries, Entries.keys], ?_⟩
  exact ⟨⟨_, rfl, rfl⟩, trivial, ⟨_, rfl, rfl⟩, trivial, trivial⟩

theorem decode_congr {es fs : List Entry} (h : ∀ key, Entries.get? key es = Entries.get? key fs) :
    decode (.map es) = decode (.map fs) := by
  simp only [decode, require, h]

theorem decode_arranged (sort : Bool) (p : Pin) : decode (p.toDocument.arranged sort) = pure p := by
  rw [← decode_toDocument p]
  exact decode_congr (Entries.get?_arrange sort (p.toDocument_isDocument true).1)

end Pin

namespace Profile

section
variable {p : Profile} {nulls : Bool}

def HoldsTexts (p : Profile) : Prop := ∀ c, p.credentials = some c → c.HoldsTexts

theorem keys_toEntries_nodup (p : Profile) : (Entries.keys p.toEntries).Nodup := by
  cases h : p.credentials <;> simp +decide [Entries.keys, toEntries, credentialsEntry, h]

theorem pins_isDocument (pins : List Pin) (nulls : Bool) :
    Value.IsDocument nulls (.list (pins.map Pin.toDocument)) := by
  induction pins with
  | nil => trivial
  | cons pin pins ih => exact ⟨pin.toDocument_isDocument nulls, ih⟩

theorem decodePinList_arranged (sort : Bool) (pins : List Pin) :
    decodePinList ((pins.map Pin.toDocument).map (Value.arranged sort)) = pure pins := by
  induction pins with
  | nil => rfl
  | cons pin pins ih =>
    simp only [List.map_cons, decodePinList, Pin.decode_arranged, ih]
    rfl

theorem toDocument_isDocument (h : ∀ c, p.credentials = some c → c.toDocument.IsDocument nulls) :
    p.toDocument.IsDocument nulls := by
  refine ⟨p.keys_toEntries_nodup, Value.areMembers_iff.2 ?_⟩
  intro e he
  simp only [toEntries, List.mem_append, List.mem_cons, List.not_mem_nil, or_false] at he
  obtain ((rfl | rfl) | he) | rfl := he
  · exact ⟨⟨_, rfl, rfl⟩, trivial⟩
  · exact ⟨⟨_, rfl, rfl⟩, trivial⟩
  · cases hc : p.credentials with
    | none =>
      rw [hc] at he
      cases he
    | some c =>
      rw [hc] at he
      rw [List.mem_singleton.1 he]
      exact ⟨⟨_, rfl, rfl⟩, h c hc⟩
  · exact ⟨⟨_, rfl, rfl⟩, pins_isDocument _ _⟩

theorem decodeParts_congr {es fs : List Entry} (hs : decodeServer es = decodeServer fs)
    (hi : decodeIdentity es = decodeIdentity fs)
    (hc : decodeCredentials es = decodeCredentials fs) (hp : decodePins es = decodePins fs) :
    decodeParts (.map es) = decodeParts (.map fs) := by
  simp only [decodeParts, requireMapping, Logged.pure_bind, hs, hi, hc, hp]

theorem decode_congr {v w : Value} (h : decodeParts v = decodeParts w) : decode v = decode w := by
  rw [decode, h, decode]

theorem get?_arranged (p : Profile) (sort : Bool) (key : Text) :
    Entries.get? key (Entries.arrange sort (Value.arrangedMembers sort p.toEntries)) =
      (Entries.get? key p.toEntries).map (Value.arranged sort) := by
  have hn : (Entries.keys (Value.arrangedMembers sort p.toEntries)).Nodup := by
    rw [Entries.keys_arrangedMembers]
    exact p.keys_toEntries_nodup
  rw [Entries.get?_arrange sort hn, Entries.get?_arrangedMembers]

theorem decodeParts_arranged (h : p.HoldsTexts) (sort : Bool) :
    decodeParts (p.toDocument.arranged sort) = decodeParts p.toDocument := by
  have hg := p.get?_arranged sort
  simp only [toDocument, Value.arranged]
  apply decodeParts_congr
  · simp [decodeServer, hg, Value.arranged]
  · simp [decodeIdentity, Entries.find?, hg, Value.arranged]
  · cases hc : p.credentials with
    | none => simp [decodeCredentials, Entries.find?, hg, hc]
    | some c =>
      have hd := Credentials.decode_arranged (h c hc) sort
      simp only [Credentials.toDocument, Value.arranged] at hd
      simp [decodeCredentials, Entries.find?, hg, hc, Credentials.toDocument, Value.arranged, hd]
  · have hp := decodePinList_arranged sort p.pins
    rw [List.map_map] at hp
    simp [decodePins, Entries.find?, hg, Value.arranged, Value.arrangedItems_eq_map, hp,
      decodePinList_toDocument]

theorem decode_arranged (h : p.HoldsTexts) (sort : Bool) :
    decode (p.toDocument.arranged sort) = decode p.toDocument :=
  decode_congr (decodeParts_arranged h sort)

end

end Profile

-- ---------------------------------------------------------------------------
-- Changed texts
-- ---------------------------------------------------------------------------

section
variable (f : Text → Text)

@[simp] theorem Value.isNull_mapTexts (v : Value) : (v.mapTexts f).isNull = v.isNull := by
  cases v <;> rfl

namespace Credentials

def mapTexts (c : Credentials) : Credentials :=
  ⟨c.userId.mapTexts f, c.homeServer.mapTexts f, c.accessToken.mapTexts f, c.deviceId.mapTexts f,
    c.refreshToken.mapTexts f⟩

theorem get_mapTexts (c : Credentials) (field : FieldName) :
    (c.mapTexts f).get field = (c.get field).mapTexts f := by
  cases field <;> rfl

theorem toEntries_mapTexts (c : Credentials) :
    (c.mapTexts f).toEntries = Value.mapTextsMembers f c.toEntries := by
  have he (field : FieldName) : (c.mapTexts f).optionalEntry field =
      (c.optionalEntry field).map fun e => (e.1, e.2.mapTexts f) := by
    rw [optionalEntry, get_mapTexts, Value.isNull_mapTexts, optionalEntry]
    split
    · rfl
    · rw [entry, get_mapTexts]
      rfl
  rw [Value.mapTextsMembers_eq_map]
  simp [toEntries, he, entry, get_mapTexts]

theorem toDocument_mapTexts (c : Credentials) :
    (c.mapTexts f).toDocument = c.toDocument.mapTexts f := by
  rw [toDocument, toEntries_mapTexts, toDocument, Value.mapTexts]

theorem IsValidated.mapTexts {c : Credentials} (h : c.IsValidated) :
    (c.mapTexts f).IsValidated := by
  obtain ⟨u, h, a, d, r, rfl⟩ := h
  refine ⟨f u, f h, f a, d.map f, r.map f, ?_⟩
  cases d <;> cases r <;> rfl

end Credentials

namespace Pin

def mapTexts (p : Pin) : Pin := ⟨f p.hostname, f p.publicKeyHash⟩

theorem toDocument_mapTexts (p : Pin) : (p.mapTexts f).toDocument = p.toDocument.mapTexts f := rfl

end Pin

namespace Profile

def mapTexts (p : Profile) : Profile :=
  ⟨p.server.mapTexts f, p.identity.mapTexts f, p.credentials.map (Credentials.mapTexts f),
    p.pins.map (Pin.mapTexts f)⟩

/-- Both addresses are texts, except that there may be no identity server. -/
def HasTextAddresses (p : Profile) : Prop :=
  (∃ s, p.server = .text s) ∧ (p.identity = .null ∨ ∃ i, p.identity = .text i)

variable {p : Profile}

theorem effectiveIdentity_mapTexts (p : Profile) :
    (p.mapTexts f).effectiveIdentity = p.effectiveIdentity.mapTexts f := by
  simp only [effectiveIdentity, mapTexts, Value.isNull_mapTexts]
  split <;> rfl

theorem HasTextAddresses.effectiveIdentity (h : p.HasTextAddresses) :
    ∃ i, p.effectiveIdentity = .text i := by
  obtain ⟨⟨s, hs⟩, hi | ⟨i, hi⟩⟩ := h
  · exact ⟨s, by rw [Profile.effectiveIdentity, hi, ← hs]; rfl⟩
  · exact ⟨i, by rw [Profile.effectiveIdentity, hi]; rfl⟩

theorem HasTextAddresses.plain_mapTexts (h : p.HasTextAddresses) :
    (p.mapTexts f).server.plain = f p.server.plain ∧
      (p.mapTexts f).effectiveIdentity.plain = f p.effectiveIdentity.plain := by
  obtain ⟨s, hs⟩ := h.1
  obtain ⟨i, hi⟩ := h.effectiveIdentity
  rw [effectiveIdentity_mapTexts, hi, mapTexts, hs]
  exact ⟨rfl, rfl⟩

theorem HasValidatedCredentials.mapTexts (h : p.HasValidatedCredentials) :
    (p.mapTexts f).HasValidatedCredentials := by
  intro c hc
  obtain ⟨d, hd, rfl⟩ := Option.map_eq_some_iff.1 hc
  exact (h d hd).mapTexts f

theorem HasValidatedCredentials.holdsTexts (h : p.HasValidatedCredentials) : p.HoldsTexts :=
  fun c hc => (h c hc).holdsTexts

theorem toDocument_mapTexts (h : p.HasTextAddresses) :
    (p.mapTexts f).toDocument = p.toDocument.mapTexts f := by
  have hc : credentialsEntry (p.mapTexts f).credentials =
      Value.mapTextsMembers f (credentialsEntry p.credentials) := by
    cases hc : p.credentials with
    | none => simp only [mapTexts, hc, Option.map_none, credentialsEntry, Value.mapTextsMembers]
    | some c =>
      simp only [mapTexts, hc, Option.map_some, credentialsEntry, Value.mapTextsMembers,
        Credentials.toDocument_mapTexts]
  have hp : (p.mapTexts f).pins.map Pin.toDocument =
      Value.mapTextsItems f (p.pins.map Pin.toDocument) := by
    rw [Value.mapTextsItems_eq_map, mapTexts, List.map_map, List.map_map]
    rfl
  obtain ⟨hs, hi⟩ := h.plain_mapTexts f
  rw [Value.mapTextsMembers_eq_map] at hc
  simp only [toDocument, toEntries, hs, hi, hc, hp, Value.mapTexts, Value.mapTextsMembers_eq_map,
    List.map_append, List.map_cons, List.map_nil]

end Profile

end

end ConnectionProfile
