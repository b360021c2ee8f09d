import ConnectionProfile.Proofs.Logged.Checks
import ConnectionProfile.Proofs.Profile.Decoding

/-!
# Creation

Two addresses make a profile if and only if they pass four checks, and otherwise the first of the four
that fails is told. A profile that is created leaves one record for every slash that was taken away. One
that is refused leaves the record of the error behind, as its last and only one of an error, unless the
address that is to be told holds an integer that is too long to be written.
-/

namespace ConnectionProfile

open Check (FirstFailure)

-- ---------------------------------------------------------------------------
-- Records
-- ---------------------------------------------------------------------------

namespace InvalidProfile

/-- What is recorded when addresses are refused. -/
def records : InvalidProfile → List Record
  | .homeServer v => [⟨.error, .profile, "Invalid home server URI: " ++ v.plain⟩]
  | .identityServer v => [⟨.error, .profile, "Identity server URI is not a string: " ++ v.quoted⟩]
  | .unparsable kind uri =>
    [⟨.error, .profile, "Failed to parse " ++ kind ++ " URI after normalization: " ++ uri⟩]
  | .unwritable => []

end InvalidProfile

namespace Logged

variable {α β : Type} {x : Logged InvalidProfile α} {f : α → Logged InvalidProfile β}
  {rs ss : List Record}

/-- On success the computation has made the records `rs`. On failure it has come as far as some of them
and has recorded the error then. -/
structure Tells (x : Logged InvalidProfile α) (rs : List Record) : Prop where
  success : ∀ a, x.result = .ok a → x.records = rs
  failure : ∀ e, x.result = .error e → ∃ before, x.records = before ++ e.records ∧ before <+: rs

theorem tells_pure (a : α) : (pure a : Logged InvalidProfile α).Tells [] where
  success _ _ := rfl
  failure _ h := nomatch h

theorem Tells.bind (hx : x.Tells rs) (hf : ∀ a, x.result = .ok a → (f a).Tells ss) :
    (x >>= f).Tells (rs ++ ss) := by
  obtain ⟨records, result⟩ := x
  cases result with
  | error e =>
    refine ⟨fun a ha => (nomatch ha), ?_⟩
    rintro _ ⟨⟩
    obtain ⟨before, hr, hp⟩ := hx.failure e rfl
    exact ⟨before, hr, hp.trans (List.prefix_append rs ss)⟩
  | ok a =>
    have hr : records = rs := hx.success a rfl
    have hb : ((⟨records, .ok a⟩ : Logged InvalidProfile α) >>= f).records =
        rs ++ (f a).records := by
      rw [← hr]
      rfl
    constructor
    · intro b hfb
      rw [hb, (hf a rfl).success b hfb]
    · intro e hfe
      obtain ⟨before, hbefore, hp⟩ := (hf a rfl).failure e hfe
      refine ⟨rs ++ before, ?_, (List.prefix_append_right_inj rs).2 hp⟩
      rw [hb, hbefore, List.append_assoc]

theorem Tells.bind_pure (hx : x.Tells rs) (g : α → β) :
    (x >>= fun a => pure (g a)).Tells rs := by
  rw [← List.append_nil rs]
  exact hx.bind fun a _ => tells_pure (g a)

end Logged

open Logged

-- ---------------------------------------------------------------------------
-- The checks
-- ---------------------------------------------------------------------------

namespace Uri

/-- The text before the first colon is one of the two schemes. -/
def NamesScheme (v : Value) : Prop :=
  ∃ scheme rest : Text, v = .text (scheme ++ (':' : CodePoint) :: rest) ∧
    (':' : CodePoint) ∉ scheme ∧ (scheme = "http" ∨ scheme = "https")

theorem hasSupportedScheme_iff {v : Value} : hasSupportedScheme v = true ↔ NamesScheme v := by
  unfold NamesScheme
  cases v with
  | text t =>
    simp only [hasSupportedScheme, Value.text.injEq]
    cases hc : t.cut? ':' with
    | none =>
      have ht := Text.cut?_eq_none.1 hc
      simp only [Bool.false_eq_true, false_iff]
      rintro ⟨scheme, rest, rfl, -⟩
      exact ht (by simp)
    | some parts =>
      obtain ⟨scheme, rest⟩ := parts
      constructor
      · intro hs
        obtain ⟨ht, hn⟩ := Text.cut?_eq_some.1 hc
        exact ⟨scheme, rest, ht, hn, by simpa [supportedSchemes] using hs⟩
      · rintro ⟨scheme', rest', ht, hn, hs⟩
        rw [Text.cut?_eq_some.2 ⟨ht, hn⟩] at hc
        cases hc
        simpa [supportedSchemes] using hs
  | _ => simp [hasSupportedScheme]

theorem makes_normalize (kind uri : Text) :
    (normalize kind uri).Makes [.ask (CanNormalize uri) (.unparsable kind uri)] := by
  intro e
  rw [Check.firstFailure_singleton, Check.ask, canNormalize_iff, normalize]
  cases uri.withoutFinal? '/' with
  | none => simp
  | some rest => cases h : parses rest <;> simp [h, bind_result_error, log, fail]

end Uri

namespace Profile

/-- The checks of two addresses in their order, each with what it fails with. -/
def addressChecks (server identity : Value) : List (Check InvalidProfile) := [
  .ask (Uri.NamesScheme server) (refusal server (.homeServer server)),
  .ask (identity = .null ∨ ∃ uri, identity = .text uri)
    (refusal identity (.identityServer identity)),
  .ask (∀ uri, server = .text uri → Uri.CanNormalize uri) (.unparsable "home server" server.plain),
  .ask (∀ uri, identity = .text uri → Uri.CanNormalize uri)
    (.unparsable "identity server" identity.plain)]

theorem makes_requireServer (server : Value) :
    (requireServer server).Makes
      [.ask (Uri.NamesScheme server) (refusal server (.homeServer server))] := by
  intro e
  rw [Check.firstFailure_singleton, Check.ask, ← Uri.hasSupportedScheme_iff]
  unfold requireServer requireServer.refuseServer
  split
  · split <;> simp [*]
  · simp [*, Uri.hasSupportedScheme]

theorem makes_requireIdentity (identity : Value) :
    (requireIdentity identity).Makes
      [.ask (identity = .null ∨ ∃ uri, identity = .text uri)
        (refusal identity (.identityServer identity))] := by
  intro e
  rw [Check.firstFailure_singleton, Check.ask]
  cases identity <;> simp [requireIdentity]

theorem makes_create (server identity : Value) (c : Option Credentials) (pins : List Pin) :
    (create server identity c pins).Makes (addressChecks server identity) := by
  refine (makes_requireServer server).bind fun s hs => (makes_requireIdentity identity).bind
    fun i hi => ?_
  obtain ⟨rfl, -⟩ := requireServer_ok.1 hs
  obtain rfl := requireIdentity_ok.1 hi
  have hserver : (Uri.normalize "home server" s).Makes
      [.ask (∀ uri, Value.text s = .text uri → Uri.CanNormalize uri)
        (.unparsable "home server" (Value.text s).plain)] := by
    simpa [Value.plain] using Uri.makes_normalize "home server" s
  refine hserver.bind fun _ _ => Makes.bind_pure ?_ _
  cases i with
  | none =>
    intro e
    simp [normalizeIdentity, Check.ask, Value.ofTextOption]
  | some uri =>
    refine Makes.bind_pure ?_ _
    simpa [Value.plain, Value.ofTextOption] using Uri.makes_normalize "identity server" uri

/-- Addresses that are texts can be written. -/
theorem create_texts_ne_unwritable {server : Text} {identity : Option Text} {c : Option Credentials}
    {pins : List Pin} : (create (.text server) (.ofTextOption identity) c pins).result ≠
      .error .unwritable := by
  rw [ne_eq, makes_create]
  have hs : (Value.text server).isWritable = true := rfl
  have hi : (Value.ofTextOption identity).isWritable = true := by
    cases identity <;> rfl
  simp [addressChecks, Check.ask, refusal, hs, hi]

end Profile

end ConnectionProfile
