import ConnectionProfile.Profile.Complaints
import ConnectionProfile.Proofs.Field
import ConnectionProfile.Proofs.Profile.Document
import ConnectionProfile.Proofs.Value.Members
import ConnectionProfile.Proofs.Value.Redacted

/-!
# Profiles with hidden tokens

Hiding the tokens of a document before it is decoded is the same as hiding those of the profile
afterwards (`decode_maskTokens`), down to the records that are made. So decoding looks at a token
only to see whether it is a text.
-/

namespace ConnectionProfile

-- ---------------------------------------------------------------------------
-- Hidden texts
-- ---------------------------------------------------------------------------

namespace Value

/-- The value with its text hidden, if it counts as a text. -/
def masked (v : Value) : Value :=
  match Field.text v with
  | .ok _ => .text []
  | .error _ => v

theorem masked_of_error {v : Value} {fault : Fault} (h : Field.text v = .error fault) :
    v.masked = v := by
  rw [masked, h]

theorem text_masked (v : Value) : Field.text v.masked = (Field.text v).map fun _ => [] := by
  rw [masked]
  cases h : Field.text v with
  | ok t => rfl
  | error fault => exact h

@[simp] theorem isNull_masked (v : Value) : v.masked.isNull = v.isNull := by
  rw [masked]
  cases h : Field.text v with
  | ok t => cases v <;> first | rfl | cases h
  | error fault => rfl

@[simp] theorem masked_hidden (v : Value) : v.hidden.masked = v.masked := by
  cases v <;> rfl

theorem arranged_masked (sort : Bool) (v : Value) :
    v.masked.arranged sort = (v.arranged sort).masked := by
  cases v with
  | octets bs => cases h : Utf8.decode? .refused bs <;> simp [masked, Field.text, h, arranged]
  | _ => rfl

theorem mapTexts_masked {f : Text → Text} (hf : f [] = []) (v : Value) :
    v.masked.mapTexts f = (v.mapTexts f).masked := by
  cases v with
  | text t => simp [masked, Field.text, mapTexts, hf]
  | octets bs => cases h : Utf8.decode? .refused bs <;> simp [masked, Field.text, h, mapTexts, hf]
  | _ => rfl

end Value

namespace Field

theorem required_text_masked (o : Option Value) :
    required text (o.map Value.masked) = (required text o).map fun _ => [] := by
  cases o with
  | none => rfl
  | some v => exact v.text_masked

theorem optional_text_masked (o : Option Value) :
    optional text (o.map Value.masked) = (optional text o).map (Option.map fun _ => []) := by
  cases o with
  | none => rfl
  | some v =>
    by_cases hv : v = .null
    · subst hv
      rfl
    · have hm : v.masked ≠ .null := by
        rwa [← Value.isNull_eq_false_iff, Value.isNull_masked, Value.isNull_eq_false_iff]
      rw [Option.map_some, optional_text_some hm, optional_text_some hv, Value.text_masked]
      cases text v <;> rfl

/-- Whatever is wrong with a value that is there, it is not a text. -/
theorem text_of_required_error {o : Option Value} {fault : Fault}
    (h : required text o = .error fault) : ∀ v ∈ o, text v = .error fault := by
  rintro v ⟨⟩
  exact h

theorem text_of_optional_error {o : Option Value} {fault : Fault}
    (h : optional text o = .error fault) : ∀ v ∈ o, text v = .error fault := by
  rintro v ⟨⟩
  have hv : v ≠ .null := by
    rintro rfl
    cases h
  rw [optional_text_some hv] at h
  cases ht : text v with
  | ok t =>
    rw [ht] at h
    cases h
  | error e =>
    rw [ht] at h
    cases h
    rfl

@[simp] theorem problem_map {α β : Type} (name : Text) (f : α → β) (x : Except Fault α) :
    problem name (x.map f) = problem name x := by
  cases x <;> rfl

theorem mem_problem {α : Type} {name : Text} {x : Except Fault α} {p : Problem} :
    p ∈ problem name x ↔ ∃ fault, x = .error fault ∧ p = ⟨name, fault⟩ := by
  cases x <;> simp [problem]

end Field

-- ---------------------------------------------------------------------------
-- Credentials
-- ---------------------------------------------------------------------------

namespace Credentials

def isTokenKey (k : Value) : Bool :=
  k.sameKey (.text FieldName.accessToken.key) || k.sameKey (.text FieldName.refreshToken.key)

/-- The fields in a document with their tokens hidden. -/
def maskFields (fields : List Entry) : List Entry :=
  Entries.mapUnder isTokenKey Value.masked fields

def maskTokens : Value → Value := Value.mapUnder isTokenKey Value.masked

/-- The credentials in a document without their tokens. -/
def dropTokens : Value → Value
  | .map fields => .map (fields.filter fun e => !isTokenKey e.1)
  | v => v

def masked (c : Credentials) : Credentials :=
  { c with accessToken := c.accessToken.masked, refreshToken := c.refreshToken.masked }

theorem quoted_masked (c : Credentials) : c.masked.quoted = c.quoted := rfl

theorem masked_ofTexts (u h a : Text) (d r : Option Text) :
    (ofTexts u h a d r).masked = ofTexts u h [] d (r.map fun _ => []) := by
  cases r <;> rfl

theorem dropTokens_maskTokens (v : Value) : dropTokens (maskTokens v) = dropTokens v := by
  cases v with
  | map fields =>
    simp only [maskTokens, Value.mapUnder, dropTokens, Entries.mapUnder, List.filter_map,
      Value.map.injEq]
    refine (List.map_congr_left fun e he => ?_).trans (List.map_id _)
    have hk : isTokenKey e.1 = false := by simpa using (List.mem_filter.1 he).2
    simp [hk]
  | _ => rfl

/-- The credentials with both tokens changed. -/
def mapTokens (f : Value → Value) (c : Credentials) : Credentials :=
  { c with accessToken := f c.accessToken, refreshToken := f c.refreshToken }

/-- A change of the tokens that sets none and takes none away is one of the document. -/
theorem toDocument_mapTokens {f : Value → Value} (hf : ∀ v, (f v).isNull = v.isNull)
    (c : Credentials) : (c.mapTokens f).toDocument = c.toDocument.mapUnder isTokenKey f := by
  have hr : (c.mapTokens f).optionalEntry .refreshToken =
      Entries.mapUnder isTokenKey f (c.optionalEntry .refreshToken) := by
    rw [optionalEntry, optionalEntry, get, get, mapTokens, hf]
    split <;> rfl
  have hd : (c.mapTokens f).optionalEntry .deviceId =
      Entries.mapUnder isTokenKey f (c.optionalEntry .deviceId) := by
    rw [optionalEntry, optionalEntry, get, get, mapTokens]
    split <;> rfl
  simp only [toDocument, Value.mapUnder, toEntries, hr, hd, Entries.mapUnder, List.map_append,
    Value.map.injEq]
  rfl

theorem isTokenKey_key (field : FieldName) :
    isTokenKey (.text field.key) = true ↔ field = .accessToken ∨ field = .refreshToken := by
  cases field <;> decide

theorem get?_maskFields (field : FieldName) (fields : List Entry) :
    Entries.get? field.key (maskFields fields) = (Entries.get? field.key fields).map fun v =>
      if field = .accessToken ∨ field = .refreshToken then v.masked else v := by
  simp only [maskFields, Entries.get?_mapUnder, isTokenKey_key]

/-- Credentials with hidden tokens pass the check that they passed before, and fail it with the
same problems. -/
theorem ofFields_maskFields (fields : List Entry) :
    ofFields (maskFields fields) = (ofFields fields).map masked := by
  simp only [ofFields, check, get?_maskFields, reduceCtorEq, or_self, or_false, or_true, if_false,
    if_true, Option.map_id', Field.required_text_masked, Field.optional_text_masked,
    Field.problem_map]
  generalize Field.required Field.text (Entries.get? FieldName.userId.key fields) = u
  generalize Field.required Field.text (Entries.get? FieldName.homeServer.key fields) = h
  generalize Field.required Field.text (Entries.get? FieldName.accessToken.key fields) = a
  generalize Field.optional Field.text (Entries.get? FieldName.deviceId.key fields) = d
  generalize Field.optional Field.text (Entries.get? FieldName.refreshToken.key fields) = r
  -- the problems do not show the values, so the credentials themselves are all that is to compare
  cases u <;> cases h <;> cases a <;> cases d <;> cases r <;>
    first | rfl | exact congrArg Except.ok (masked_ofTexts ..).symm

theorem require_maskFields (field : FieldName) (fields : List Entry) :
    ∃ f, require field (maskFields fields) = (require field fields).map f := by
  refine ⟨fun v => if field = .accessToken ∨ field = .refreshToken then v.masked else v, ?_⟩
  rw [require, require, get?_maskFields]
  cases Entries.get? field.key fields <;> rfl

theorem decode_maskTokens (v : Value) : decode (maskTokens v) = (decode v).map masked := by
  cases v with
  | map fields =>
    obtain ⟨_, hu⟩ := require_maskFields .userId fields
    obtain ⟨_, hh⟩ := require_maskFields .homeServer fields
    obtain ⟨_, ha⟩ := require_maskFields .accessToken fields
    change decode (.map (maskFields fields)) = _
    simp only [decode, hu, hh, ha, ofFields_maskFields, Logged.bind_map, Logged.map_bind]
    cases ofFields fields <;> rfl
  | _ => rfl

-- ---------------------------------------------------------------------------
-- Complaints
-- ---------------------------------------------------------------------------

/-- No text is a problem. -/
theorem mem_problems {fields : List Entry} {problems : List Problem} {p : Problem}
    (h : ofFields fields = .error problems) (hp : p ∈ problems) :
    ∃ field : FieldName, p.field = field.key ∧
      ∀ v ∈ Entries.get? field.key fields, Field.text v = .error p.fault := by
  simp only [ofFields, check] at h
  split at h
  · cases h
  · cases h
    simp only [List.mem_append, Field.mem_problem] at hp
    rcases hp with (((⟨_, he, rfl⟩ | ⟨_, he, rfl⟩) | ⟨_, he, rfl⟩) | ⟨_, he, rfl⟩) | ⟨_, he, rfl⟩
    · exact ⟨_, rfl, Field.text_of_required_error he⟩
    · exact ⟨_, rfl, Field.text_of_required_error he⟩
    · exact ⟨_, rfl, Field.text_of_required_error he⟩
    · exact ⟨_, rfl, Field.text_of_optional_error he⟩
    · exact ⟨_, rfl, Field.text_of_optional_error he⟩

theorem complaints_maskFields (fields : List Entry) :
    complaints (maskFields fields) = complaints fields := by
  unfold complaints
  rw [ofFields_maskFields]
  cases h : ofFields fields with
  | ok c => rfl
  | error problems =>
    refine List.map_congr_left fun p hp => ?_
    obtain ⟨field, hf, hv⟩ := mem_problems h hp
    rw [hf, get?_maskFields]
    cases hg : Entries.get? field.key fields with
    | none => rfl
    | some v =>
      rw [Option.map_some, Value.masked_of_error (hv v hg), ite_self]

end Credentials

-- ---------------------------------------------------------------------------
-- Profiles
-- ---------------------------------------------------------------------------

namespace Profile

def isCredentialsKey (k : Value) : Bool := k.sameKey (.text credentialsKey)

/-- The entries of a document with the tokens of its credentials hidden. -/
def maskEntries (entries : List Entry) : List Entry :=
  Entries.mapUnder isCredentialsKey Credentials.maskTokens entries

def maskTokens : Value → Value := Value.mapUnder isCredentialsKey Credentials.maskTokens

/-- The document with credentials that lost their tokens. -/
def dropTokens : Value → Value := Value.mapUnder isCredentialsKey Credentials.dropTokens

def masked (p : Profile) : Profile :=
  { p with credentials := p.credentials.map Credentials.masked }

theorem dropTokens_maskTokens (v : Value) : dropTokens (maskTokens v) = dropTokens v := by
  rw [dropTokens, maskTokens, Value.mapUnder_mapUnder]
  simp only [Credentials.dropTokens_maskTokens]

theorem arranged_maskTokens (sort : Bool) (v : Value) :
    (maskTokens v).arranged sort = maskTokens (v.arranged sort) :=
  Value.arranged_mapUnder (Value.arranged_mapUnder (Value.arranged_masked sort)) v

theorem mapTexts_maskTokens {f : Text → Text} (hf : f [] = []) (v : Value) :
    (maskTokens v).mapTexts f = maskTokens (v.mapTexts f) :=
  Value.mapTexts_mapUnder (Value.mapTexts_mapUnder (Value.mapTexts_masked hf)) v

/-- What the log shows of a profile shows no token. -/
theorem quoted_masked (p : Profile) : p.masked.quoted = p.quoted := by
  have hc : quotedCredentials (p.credentials.map Credentials.masked) =
      quotedCredentials p.credentials := by
    cases p.credentials with
    | none => rfl
    | some c => exact c.quoted_masked
  simp only [quoted, masked, hc]

/-- The profile with the tokens of its credentials changed. -/
def mapTokens (f : Value → Value) (p : Profile) : Profile :=
  { p with credentials := p.credentials.map (Credentials.mapTokens f) }

theorem toDocument_mapTokens {f : Value → Value} (hf : ∀ v, (f v).isNull = v.isNull)
    (p : Profile) : (p.mapTokens f).toDocument =
      p.toDocument.mapUnder isCredentialsKey (Value.mapUnder Credentials.isTokenKey f) := by
  have hc : credentialsEntry (p.credentials.map (Credentials.mapTokens f)) = Entries.mapUnder
      isCredentialsKey (Value.mapUnder Credentials.isTokenKey f)
        (credentialsEntry p.credentials) := by
    cases p.credentials with
    | none => rfl
    | some c =>
      simp only [Option.map_some, credentialsEntry, Credentials.toDocument_mapTokens hf]
      rfl
  have he : (p.mapTokens f).toEntries = Entries.mapUnder
      isCredentialsKey (Value.mapUnder Credentials.isTokenKey f) p.toEntries := by
    simp only [toEntries, mapTokens, hc, Entries.mapUnder, List.map_append]
    rfl
  exact congrArg Value.map he

theorem toDocument_masked (p : Profile) : p.masked.toDocument = maskTokens p.toDocument :=
  toDocument_mapTokens Value.isNull_masked p

-- ---------------------------------------------------------------------------
-- Decoding
-- ---------------------------------------------------------------------------

section
variable (entries : List Entry)

theorem decodeServer_maskEntries : decodeServer (maskEntries entries) = decodeServer entries := by
  have hk : isCredentialsKey (.text serverKey) = false := rfl
  simp only [decodeServer, maskEntries, Entries.get?_mapUnder_of_neg hk]

theorem decodeIdentity_maskEntries :
    decodeIdentity (maskEntries entries) = decodeIdentity entries := by
  have hk : isCredentialsKey (.text identityKey) = false := rfl
  simp only [decodeIdentity, Entries.find?, maskEntries, Entries.get?_mapUnder_of_neg hk]

theorem decodePins_maskEntries : decodePins (maskEntries entries) = decodePins entries := by
  have hk : isCredentialsKey (.text pinsKey) = false := rfl
  simp only [decodePins, Entries.find?, maskEntries, Entries.get?_mapUnder_of_neg hk]

theorem decodeCredentials_maskEntries : decodeCredentials (maskEntries entries) =
    (decodeCredentials entries).map (Option.map Credentials.masked) := by
  have hk : isCredentialsKey (.text credentialsKey) = true := rfl
  rw [decodeCredentials, decodeCredentials, Entries.find?, Entries.find?, maskEntries,
    Entries.get?_mapUnder_of_pos hk]
  cases Entries.get? credentialsKey entries with
  | none => rfl
  | some v =>
    cases v with
    | map fields =>
      change (Credentials.decode (Credentials.maskTokens (.map fields))).mapError
          DecodeError.credentials >>= _ =
        Logged.map _ ((Credentials.decode (.map fields)).mapError DecodeError.credentials >>=
          fun c => pure (some c))
      rw [Credentials.decode_maskTokens, ← Logged.map_mapError, Logged.bind_map, Logged.map_bind]
      rfl
    | _ => rfl

end

theorem create_mapTokens (f : Value → Value) (server identity : Value) (c : Option Credentials)
    (pins : List Pin) : create server identity (c.map (Credentials.mapTokens f)) pins =
      (create server identity c pins).map (mapTokens f) := by
  simp only [create, Logged.map_bind, Logged.map_pure, mapTokens]

theorem create_masked (server identity : Value) (c : Option Credentials) (pins : List Pin) :
    create server identity (c.map Credentials.masked) pins =
      (create server identity c pins).map masked :=
  create_mapTokens Value.masked server identity c pins

def Parts.masked (parts : Parts) : Parts :=
  { parts with credentials := parts.credentials.map Credentials.masked }

theorem decodeParts_maskTokens (v : Value) :
    decodeParts (maskTokens v) = (decodeParts v).map Parts.masked := by
  cases v with
  | map entries =>
    change decodeParts (.map (maskEntries entries)) = _
    simp only [decodeParts, requireMapping, Logged.pure_bind, decodeServer_maskEntries,
      decodeIdentity_maskEntries, decodeCredentials_maskEntries, decodePins_maskEntries,
      Logged.bind_map, Logged.map_bind, Logged.map_pure, Parts.masked]
  | _ => rfl

/-- Decoding does not see the texts of tokens: it makes the same records, and the same profile
apart from its tokens, or it fails alike. -/
theorem decode_maskTokens (v : Value) : decode (maskTokens v) = (decode v).map masked := by
  simp only [decode, decodeParts_maskTokens, ← Logged.map_mapError, Logged.bind_map,
    Logged.map_bind, Parts.masked, create_masked]

end Profile

end ConnectionProfile
