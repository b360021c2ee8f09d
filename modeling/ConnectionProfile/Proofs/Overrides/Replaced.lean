import ConnectionProfile.Proofs.Overrides.Precedence
import ConnectionProfile.Proofs.Profile.Fields

/-!
# Overrides of a profile

Overrides work on documents, where a value can have more than one form. `decode_apply` says what they
come to for the profile that a document decodes to: the values that are given take the place of
those in the profile, and nothing else changes.
-/

namespace ConnectionProfile

structure Replacements where
  homeServer : Option Text
  identityServer : Option Text
  pins : Option (List Pin)
  userId : Option Text
  deviceId : Option Text
  accessToken : Option Text

namespace Replacements

def overrides (r : Replacements) : Overrides :=
  ⟨.ofTextOption r.homeServer, .ofTextOption r.identityServer, r.pins, .ofTextOption r.userId,
    .ofTextOption r.deviceId, .ofTextOption r.accessToken⟩

/-- The token of the arguments or else that of the environment. -/
def token (r : Replacements) (environment : Option Text) : Option Text :=
  r.accessToken.or environment

end Replacements

def Credentials.replaced (c : Credentials) (r : Replacements) (environment : Option Text) :
    Credentials :=
  { c with
    userId := (r.userId.map .text).getD c.userId
    accessToken := ((r.token environment).map .text).getD c.accessToken
    deviceId := (r.deviceId.map .text).getD c.deviceId }

namespace Profile

def replacedServer (p : Profile) (r : Replacements) : Value :=
  (r.homeServer.map fun t => .text (t.withoutFinal '/')).getD p.server

/-- New credentials are for the home server in force. -/
def replacedCredentials (p : Profile) (r : Replacements) (environment : Option Text) :
    Option Credentials :=
  if r.userId = none ∧ r.token environment = none then p.credentials
  else
    let c := p.credentials.getD ⟨.null, p.replacedServer r, .null, .null, .null⟩
    some (c.replaced r environment)

def replaced (p : Profile) (r : Replacements) (environment : Option Text) : Profile where
  server := p.replacedServer r
  identity := (r.identityServer.map fun t => .text (t.withoutFinal '/')).getD p.identity
  credentials := p.replacedCredentials r environment
  pins := r.pins.getD p.pins

end Profile

/-- A profile can be made of each address that is given, and new credentials have both a user and a
token. -/
structure Replacements.Fit (r : Replacements) (environment : Option Text) (p : Profile) : Prop where
  homeServer : ∀ t ∈ r.homeServer, ∃ q, (Profile.create (.text t) .null none []).result = .ok q
  identityServer : ∀ t ∈ r.identityServer,
    ∃ server q, (Profile.create server (.text t) none []).result = .ok q
  credentials : (r.userId = none ∧ r.token environment = none) ∨ p.credentials.isSome = true ∨
    (r.userId.isSome = true ∧ (r.token environment).isSome = true)

namespace Replacements.Fit

variable {r : Replacements} {environment : Option Text} {p : Profile}

theorem server (h : r.Fit environment p) {s : Text}
    (hscheme : Uri.hasSupportedScheme (.text s) = true) (hs : Uri.CanNormalize s) :
    Uri.hasSupportedScheme (.text (r.homeServer.getD s)) = true ∧
      Uri.CanNormalize (r.homeServer.getD s) := by
  cases ht : r.homeServer with
  | none => exact ⟨hscheme, hs⟩
  | some t =>
    obtain ⟨q, hq⟩ := h.homeServer t ht
    obtain ⟨_, _, ⟨⟩, -, hscheme, hs, -⟩ := Profile.create_ok.1 hq
    exact ⟨hscheme, hs⟩

theorem identity (h : r.Fit environment p) {i : Option Text}
    (hi : ∀ uri ∈ i, Uri.CanNormalize uri) :
    ∀ uri ∈ r.identityServer.or i, Uri.CanNormalize uri := by
  cases ht : r.identityServer with
  | none => exact hi
  | some t =>
    obtain ⟨_, q, hq⟩ := h.identityServer t ht
    obtain ⟨_, j, -, hj, -, -, hj', -⟩ := Profile.create_ok.1 hq
    cases j with
    | none => cases hj
    | some j =>
      cases hj
      exact hj'

end Replacements.Fit

namespace Overrides

theorem firstPresent_ofTextOption (t : Option Text) (v : Value) :
    firstPresent [.ofTextOption t, v] = (t.map .text).getD v := by
  cases t with
  | none => exact firstPresent_singleton v
  | some t => rfl

section
variable {r : Replacements} {environment : Option Text} {document : List Entry}

theorem givenToken_overrides :
    r.overrides.givenToken environment = .ofTextOption (r.token environment) := by
  change firstPresent [.ofTextOption r.accessToken, .ofTextOption environment] = _
  rw [firstPresent_ofTextOption, Replacements.token]
  cases r.accessToken <;> rfl

theorem keepsCredentials_overrides :
    r.overrides.KeepsCredentials environment ↔
      r.userId = .none ∧ r.token environment = .none := by
  have ht (t : Option Text) : Value.ofTextOption t = .null ↔ t = .none := by
    cases t <;> simp [Value.ofTextOption]
  rw [KeepsCredentials, givenToken_overrides, ht, and_comm]
  exact and_congr_left' (ht r.userId)

theorem resolvedHomeServer_overrides {s : Text}
    (hs : stored Profile.serverKey document = .text s) :
    r.overrides.resolvedHomeServer document = .text (r.homeServer.getD s) := by
  rw [resolvedHomeServer, hs]
  exact (firstPresent_ofTextOption ..).trans (by cases r.homeServer <;> rfl)

end

end Overrides

-- ---------------------------------------------------------------------------
-- The credentials
-- ---------------------------------------------------------------------------

namespace Field

theorem text_map_getD {v : Value} {u : Text} (h : text v = .ok u) (t : Option Text) :
    text ((t.map .text).getD v) = .ok (t.getD u) := by
  cases t with
  | none => exact h
  | some t => rfl

theorem optional_text_map_getD {v : Value} {d : Option Text}
    (h : optional text (some v) = .ok d) (t : Option Text) :
    optional text (some ((t.map .text).getD v)) = .ok (t.or d) := by
  cases t with
  | none => exact h
  | some t => rfl

end Field

namespace Credentials

open Overrides (stored)

theorem ofTexts_replaced (u h a : Text) (d r : Option Text) (new : Replacements)
    (environment : Option Text) :
    (ofTexts u h a d r).replaced new environment =
      ofTexts (new.userId.getD u) h ((new.token environment).getD a) (new.deviceId.or d) r := by
  cases hu : new.userId <;> cases ht : new.token environment <;> cases hd : new.deviceId <;>
    simp [replaced, ofTexts, hu, ht, hd, Value.ofTextOption]

variable {r : Replacements} {environment : Option Text} {s : Text} {old : List Entry}

/-- Credentials with overrides decode when each field does, given or stored. -/
theorem decode_overridden {u h a : Text} {d t : Option Text}
    (hu : Field.text ((r.userId.map .text).getD (stored FieldName.userId.key old)) = .ok u)
    (hh : Field.text (Overrides.firstPresent [stored FieldName.homeServer.key old,
      .text (s.withoutFinal '/')]) = .ok h)
    (ha : Field.text (((r.token environment).map .text).getD
      (stored FieldName.accessToken.key old)) = .ok a)
    (hd : Field.optional Field.text
      (some ((r.deviceId.map .text).getD (stored FieldName.deviceId.key old))) = .ok d)
    (ht : Field.optional Field.text (some (stored FieldName.refreshToken.key old)) = .ok t) :
    (decode (.map (r.overrides.credentials (r.overrides.givenToken environment) (.text s)
      old))).result = .ok (ofTexts u h a d t) := by
  rw [decode_ok_iff]
  simp only [Overrides.stored_credentials]
  refine ⟨u, h, a, d, t, ?_, hh, ?_, ?_, ht, rfl⟩
  · rw [← hu, ← Overrides.firstPresent_ofTextOption]
    rfl
  · rw [← ha, ← Overrides.firstPresent_ofTextOption, ← Overrides.givenToken_overrides]
    rfl
  · rw [← hd, ← Overrides.firstPresent_ofTextOption]
    rfl

/-- Credentials that are there keep their home server. -/
theorem decode_overridden_stored {c : Credentials} (h : (decode (.map old)).result = .ok c) :
    (decode (.map (r.overrides.credentials (r.overrides.givenToken environment) (.text s)
      old))).result = .ok (c.replaced r environment) := by
  obtain ⟨u, h, a, d, t, hu, hh, ha, hd, ht, rfl⟩ := decode_ok_iff.1 h
  rw [ofTexts_replaced]
  refine decode_overridden (Field.text_map_getD hu _) ?_ (Field.text_map_getD ha _)
    (Field.optional_text_map_getD hd _) ht
  rw [Overrides.firstPresent_cons, if_neg (by
    rw [Value.isNull_iff]
    exact Field.ne_null_of_text_ok hh)]
  exact hh

/-- Credentials that are not there need a user and a token. -/
theorem decode_overridden_new {u a : Text} (hu : r.userId = some u)
    (ha : r.token environment = some a) :
    (decode (.map (r.overrides.credentials (r.overrides.givenToken environment) (.text s)
      []))).result =
      .ok (replaced ⟨.null, .text (s.withoutFinal '/'), .null, .null, .null⟩ r environment) := by
  have hr : replaced ⟨.null, .text (s.withoutFinal '/'), .null, .null, .null⟩ r environment =
      ofTexts u (s.withoutFinal '/') a r.deviceId none := by
    cases hd : r.deviceId <;> simp [replaced, ofTexts, hu, ha, hd, Value.ofTextOption]
  rw [hr]
  refine decode_overridden ?_ rfl ?_ ?_ rfl
  · rw [hu]
    rfl
  · rw [ha]
    rfl
  · cases r.deviceId <;> rfl

end Credentials

-- ---------------------------------------------------------------------------
-- The whole document
-- ---------------------------------------------------------------------------

namespace Profile

open Overrides (stored)

variable {r : Replacements} {environment : Option Text} {document : List Entry} {p : Profile}

theorem decodeCredentials_apply {s : Text} {c : Option Credentials}
    (hs : stored serverKey document = .text s)
    (hc : (decodeCredentials document).result = .ok c) (hp : p.credentials = c)
    (hserver : p.replacedServer r = .text ((r.homeServer.getD s).withoutFinal '/'))
    (hfit : (r.userId = none ∧ r.token environment = none) ∨ c.isSome = true ∨
      (r.userId.isSome = true ∧ (r.token environment).isSome = true)) :
    (decodeCredentials (r.overrides.apply environment document)).result =
      .ok (p.replacedCredentials r environment) := by
  have hstored := @Overrides.stored_apply_credentialsKey r.overrides environment document
  rw [Overrides.resolvedHomeServer_overrides hs] at hstored
  rw [replacedCredentials, hp, hserver]
  by_cases hk : r.userId = none ∧ r.token environment = none
  · rw [if_pos (Overrides.keepsCredentials_overrides.2 hk)] at hstored
    rw [if_pos hk, decodeCredentials_ok, hstored]
    exact decodeCredentials_ok.1 hc
  · -- The credentials are written anew, over the stored ones or over none.
    rw [if_neg (mt Overrides.keepsCredentials_overrides.1 hk)] at hstored
    rw [if_neg hk, decodeCredentials_ok]
    refine .inr ⟨_, _, hstored, ?_, rfl⟩
    obtain ⟨hn, rfl⟩ | ⟨fields, d, hm, hd, rfl⟩ := decodeCredentials_ok.1 hc
    · have hold : Overrides.storedCredentials document = [] := by
        rw [Overrides.storedCredentials_eq, hn]
        rfl
      obtain ⟨hu, ha⟩ := (hfit.resolve_left hk).resolve_left (by simp)
      obtain ⟨u, hu⟩ := Option.isSome_iff_exists.1 hu
      obtain ⟨a, ha⟩ := Option.isSome_iff_exists.1 ha
      rw [hold]
      exact Credentials.decode_overridden_new hu ha
    · have hold : Overrides.storedCredentials document = fields := by
        rw [Overrides.storedCredentials_eq, hm]
        rfl
      rw [hold]
      exact Credentials.decode_overridden_stored hd

theorem decodePins_apply {pins : List Pin} (h : (decodePins document).result = .ok pins) :
    (decodePins (r.overrides.apply environment document)).result = .ok (r.pins.getD pins) := by
  rw [decodePins_ok, Overrides.stored_apply_pinsKey]
  cases hr : r.pins with
  | none =>
    rw [show r.overrides.pins = none from hr]
    exact decodePins_ok.1 h
  | some ps =>
    rw [show r.overrides.pins = some ps from hr]
    exact .inr ⟨_, rfl, by rw [decodePinList_toDocument]; rfl⟩

/-- The document with the overrides decodes to the profile with the replacements. -/
theorem decode_apply (h : (decode (.map document)).result = .ok p) (hr : r.Fit environment p) :
    (decode (.map (r.overrides.apply environment document))).result =
      .ok (p.replaced r environment) := by
  obtain ⟨s, i, c, pins, hs, hi, hc, hpins, hp⟩ := decode_ok_iff.1 h
  obtain ⟨_, j, ⟨⟩, hj, hscheme, hn, hm, rfl⟩ := create_ok.1 hp
  obtain rfl : i = j := by cases i <;> cases j <;> cases hj <;> rfl
  have hserver : replacedServer ⟨.text (s.withoutFinal '/'),
      .ofTextOption (i.map (Text.withoutFinal '/')), c, pins⟩ r =
        .text ((r.homeServer.getD s).withoutFinal '/') := by
    cases hh : r.homeServer <;> simp [replacedServer, hh]
  rw [decode_ok_iff]
  refine ⟨r.homeServer.getD s, r.identityServer.or i, _, _, ?_, ?_,
    decodeCredentials_apply hs hc rfl hserver hr.credentials, decodePins_apply hpins, ?_⟩
  · rw [Overrides.stored_apply_serverKey, Overrides.resolvedHomeServer_overrides hs]
  · rw [Overrides.stored_apply_identityKey, hi]
    refine (Overrides.firstPresent_ofTextOption ..).trans ?_
    cases r.identityServer <;> rfl
  · obtain ⟨hscheme, hn⟩ := hr.server hscheme hn
    refine create_ok.2 ⟨_, _, rfl, rfl, hscheme, hn, hr.identity hm, ?_⟩
    rw [replaced, hserver]
    cases r.identityServer <;> rfl

/-- The stored token is given by its octets, and that of the environment takes its place. A device
that is new is added, and the unknown key is left out. -/
theorem decode_apply_octets :
    (decode (.map ((Replacements.overrides ⟨some "http://b/", none, some [⟨"h", "k"⟩], none,
        some "D", none⟩).apply (some "T")
      [(.text serverKey, .text "https://a//"), (.text identityKey, .null),
        (.text credentialsKey, .map [(.text "user_id", .text "U"), (.text "x", .null),
          (.text "home_server", .text "s"), (.text "access_token", .octets [0x74])])]))).result =
      .ok ⟨.text "http://b", .null, some (.ofTexts "U" "s" "T" (some "D") none),
        [⟨"h", "k"⟩]⟩ := by
  refine decode_apply (p := ⟨.text "https://a/", .null, some (.ofTexts "U" "s" "t" none none), []⟩)
    rfl ⟨?_, ?_, ?_⟩
  · rintro _ ⟨⟩
    exact ⟨_, rfl⟩
  · rintro _ ⟨⟩
  · exact .inr (.inl rfl)

end Profile

end ConnectionProfile
