import ConnectionProfile.Proofs.Json.Alike
import ConnectionProfile.Proofs.Overrides.Masked
import ConnectionProfile.Proofs.Profile.Complaints
import ConnectionProfile.Proofs.Profile.Pins
import ConnectionProfile.Session.Step

/-!
# Profiles that differ in tokens

Two profiles differ at most in the texts of their tokens when they are the same with these hidden.
Octets are not hidden, since a token that was set to octets cannot be printed. Whatever is done with
two such profiles ends alike: they show the same, both can be printed or neither, and what is decoded
from their documents and from their texts differs at most in tokens again.
-/

namespace ConnectionProfile

-- ---------------------------------------------------------------------------
-- Hidden tokens
-- ---------------------------------------------------------------------------

namespace Value

theorem hidden_ofTextOption (t : Option Text) :
    (ofTextOption t).hidden = (ofTextOption t).masked := by
  cases t <;> rfl

/-- Texts are printed alike, whatever they say. -/
theorem printsAlike_hidden (layout : Json.Layout) (depth : Nat) (v : Value) :
    Json.PrintsAlike layout depth masked v v.hidden := by
  cases v with
  | text t =>
    refine .printed rfl rfl fun _ => ?_
    exact ⟨_, _, Json.reads_quote layout.ascii t, Json.reads_quote layout.ascii [], rfl⟩
  | _ => exact Json.printsAlike_refl layout depth _ _

end Value

namespace Credentials

def hidden : Credentials → Credentials := mapTokens Value.hidden

theorem masked_hidden (c : Credentials) : c.hidden.masked = c.masked := by
  simp only [masked, hidden, mapTokens, Value.masked_hidden]

theorem IsValidated.hidden_eq {c : Credentials} (h : c.IsValidated) : c.hidden = c.masked := by
  obtain ⟨u, h, a, d, r, rfl⟩ := h
  simp only [hidden, masked, mapTokens, ofTexts, Value.hidden_ofTextOption]
  rfl

/-- New credentials have texts for tokens, which are hidden and masked alike. -/
theorem ofFields_map_hidden (fields : List Entry) :
    (ofFields fields).map hidden = ofFields (maskFields fields) := by
  rw [ofFields_maskFields]
  cases h : ofFields fields with
  | error problems => rfl
  | ok c => exact congrArg Except.ok (check_ok h).hidden_eq

theorem hidden_set (c : Credentials) (field : FieldName) (v : Value) : (c.set field v).hidden =
    c.hidden.set field (if isTokenKey (.text field.key) then v.hidden else v) := by
  cases field <;> rfl

theorem printsAlike_hidden (layout : Json.Layout) (depth : Nat) (c : Credentials) :
    Json.PrintsAlike layout depth maskTokens c.toDocument c.hidden.toDocument := by
  rw [hidden, toDocument_mapTokens Value.isNull_hidden]
  refine Json.printsAlike_mapUnder (by simp [toEntries]) (fun e he => ?_) fun e _ _ => ?_
  · obtain ⟨field, rfl⟩ := mem_toEntries he
    exact ⟨_, rfl, isKeyword_key field⟩
  · exact e.2.printsAlike_hidden layout (depth + 1)

end Credentials

namespace Profile

def hidden : Profile → Profile := mapTokens Value.hidden

theorem masked_hidden (p : Profile) : p.hidden.masked = p.masked := by
  simp only [masked, hidden, mapTokens, Option.map_map]
  congr 2
  funext c
  exact c.masked_hidden

theorem quoted_hidden (p : Profile) : p.hidden.quoted = p.quoted := by
  rw [← p.hidden.quoted_masked, masked_hidden, quoted_masked]

theorem HasValidatedCredentials.hidden_eq {p : Profile} (h : p.HasValidatedCredentials) :
    p.hidden = p.masked := by
  rw [hidden, mapTokens, masked]
  congr 1
  exact Option.map_congr fun c hc => (h c hc).hidden_eq

theorem printsAlike_hidden (layout : Json.Layout) (p : Profile) :
    Json.PrintsAlike layout 0 maskTokens p.toDocument p.hidden.toDocument := by
  rw [hidden, toDocument_mapTokens Value.isNull_hidden]
  refine Json.printsAlike_mapUnder (by simp [toEntries]) (fun e he => isKeyword_of_mem_toEntries he)
    fun e he hk => ?_
  have hc : ∃ c : Credentials, e.2 = c.toDocument := by
    simp only [toEntries, List.mem_append, List.mem_cons, List.not_mem_nil, or_false] at he
    obtain ((rfl | rfl) | he) | rfl := he
    · cases hk
    · cases hk
    · obtain ⟨c, rfl⟩ := mem_credentialsEntry he
      exact ⟨c, rfl⟩
    · cases hk
  obtain ⟨c, hc⟩ := hc
  rw [hc, ← Credentials.toDocument_mapTokens Value.isNull_hidden]
  exact c.printsAlike_hidden layout 1

-- ---------------------------------------------------------------------------
-- Two profiles
-- ---------------------------------------------------------------------------

/-- The document that a text holds, with its tokens hidden. -/
def readMasked (t : Text) : Except Json.ReadError Value := (Json.read t).map maskTokens

theorem decode_map_hidden (v : Value) : (decode v).map hidden = decode (maskTokens v) := by
  rw [decode_maskTokens]
  exact Logged.map_congr fun p hp => (hasValidatedCredentials_of_decode hp).hidden_eq

theorem decode_map_hidden_congr {v w : Value} (h : maskTokens v = maskTokens w) :
    (decode v).map hidden = (decode w).map hidden := by
  rw [decode_map_hidden, decode_map_hidden, h]

theorem readJson_congr {t u : Text} (h : readMasked t = readMasked u) :
    (readJson (.text t)).map maskTokens = (readJson (.text u)).map maskTokens := by
  have hr (t : Text) : (readJson (.text t)).map maskTokens =
      readJson.ofRead "<JSONDecodeError>" (readMasked t) := by
    rw [readJson, readMasked]
    cases Json.read t with
    | ok v => rfl
    | error e => cases e <;> rfl
  rw [hr, hr, h]

theorem ofText_congr {t u : Text} (h : readMasked t = readMasked u) :
    (ofText (.text t)).map hidden = (ofText (.text u)).map hidden := by
  simp only [ofText, Logged.map_bind]
  refine Logged.bind_congr_map (readJson_congr h) fun v w hv => ?_
  rw [Logged.map_mapError, Logged.map_mapError, decode_map_hidden_congr hv]

theorem toldOfText_congr {t u : Text} (h : readMasked t = readMasked u) :
    toldOfText (.text t) = toldOfText (.text u) := by
  obtain ⟨-, ⟨v, w, hv, hw, hvw⟩ | ⟨e, hv, hw⟩⟩ := Logged.map_eq_map.1 (readJson_congr h)
  · rw [toldOfText, toldOfText, hv, hw]
    exact told_congr hvw
  · rw [toldOfText, toldOfText, hv, hw]

/-- Whether a profile can be printed does not depend on its tokens, and nor does what is read of the text
if only blanks were added. -/
theorem toText_hidden (p : Profile) (layout : Json.Layout) {γ : Type} {g : Text → γ}
    (hg : ∀ t u, (layout.IsSpaced → readMasked t = readMasked u) → g t = g u) :
    (p.toText layout).map g = (p.hidden.toText layout).map g := by
  rw [toText, toText]
  cases p.printsAlike_hidden layout with
  | refused hv hw => rw [hv, hw]
  | printed hv hw hr =>
    rw [hv, hw]
    refine congrArg Except.ok (hg _ _ fun hb => ?_)
    obtain ⟨o, o', hreads, hreads', hmap⟩ := hr hb
    rw [readMasked, readMasked, Json.read_of_reads hreads, Json.read_of_reads hreads', hmap]

theorem encode_map_maskTokens (p : Profile) :
    (Session.encode p).map maskTokens = (Session.encode p.hidden).map maskTokens := by
  have hd : p.hidden.hasDocument = p.hasDocument := rfl
  rw [Session.encode, Session.encode, hd]
  split
  · rw [Except.map, Except.map, ← p.toDocument_masked, ← p.masked_hidden, toDocument_masked]
  · rfl

/-- The same under options. -/
theorem encodeText_hidden (p : Profile) (options : List Entry) {γ : Type} {g : Text → γ}
    (hg : ∀ t u, (Json.Layout.AddOnlyBlanks options → readMasked t = readMasked u) → g t = g u) :
    (Session.encodeText p options).map g = (Session.encodeText p.hidden options).map g := by
  refine Except.bind_congr_map p.encode_map_maskTokens fun _ _ _ _ _ => ?_
  cases ho : Json.Layout.ofOptions options with
  | ok layout =>
    rw [Except.map_mapError, Except.map_mapError,
      p.toText_hidden layout fun t u h => hg t u fun hb => h (hb.isSpaced ho)]
  | error e =>
    cases e with
    | notJoined layout =>
      refine Except.bind_congr_map (f := fun _ => ()) ?_ fun _ _ _ _ _ => rfl
      rw [Except.map_mapError, Except.map_mapError, p.toText_hidden layout fun _ _ _ => rfl]
    | _ => rfl

section
variable {p q : Profile} (h : p.hidden = q.hidden)
include h

theorem masked_congr : p.masked = q.masked := by
  rw [← p.masked_hidden, ← q.masked_hidden, h]

theorem quoted_congr : p.quoted = q.quoted := by
  rw [← p.quoted_hidden, ← q.quoted_hidden, h]

theorem quote_congr : Session.quote p = Session.quote q := by
  have hq (p : Profile) : p.hidden.isQuotable = p.isQuotable := by
    obtain ⟨_, _, credentials, _⟩ := p
    cases credentials <;> rfl
  rw [Session.quote, Session.quote, ← hq p, ← hq q, quoted_congr h, h]

theorem maskTokens_toDocument_congr : maskTokens p.toDocument = maskTokens q.toDocument := by
  rw [← p.toDocument_masked, ← q.toDocument_masked, masked_congr h]

theorem encode_congr : (Session.encode p).map maskTokens = (Session.encode q).map maskTokens := by
  rw [p.encode_map_maskTokens, q.encode_map_maskTokens, h]

theorem copy_congr : (Session.copy p).map hidden = (Session.copy q).map hidden := by
  have hc (p : Profile) : (Session.copy p).map hidden = Session.copy p.hidden :=
    (create_mapTokens Value.hidden _ _ _ _).symm
  rw [hc, hc, h]

theorem encodeText_congr (options : List Entry) {γ : Type} {g : Text → γ}
    (hg : ∀ t u, (Json.Layout.AddOnlyBlanks options → readMasked t = readMasked u) → g t = g u) :
    (Session.encodeText p options).map g = (Session.encodeText q options).map g := by
  rw [encodeText_hidden p options hg, encodeText_hidden q options hg, h]

end

end Profile

end ConnectionProfile
