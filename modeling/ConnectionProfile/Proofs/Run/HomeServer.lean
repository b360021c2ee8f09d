import ConnectionProfile.Proofs.Overrides.Precedence
import ConnectionProfile.Proofs.Profile.Fields
import ConnectionProfile.Proofs.Run.Reprint

/-!
# The home server of new credentials

Credentials that are written anew and that name no home server yet are for the home server of the
document. Its address loses a final slash in two places: in the credentials when the overrides are
applied, and in the profile when it is created, after the address was found to parse. What both
leave is the same, and it is printed at both places (`ofArguments_homeServer`).
-/

namespace ConnectionProfile

open Credentials (FieldName)
open Overrides (stored)

/-- If there are credentials, they name no home server. -/
def Overrides.NamesNoHomeServer (document : List Entry) : Prop :=
  ∀ fields, Entries.get? Profile.credentialsKey document = some (.map fields) →
    stored FieldName.homeServer.key fields = .null

section
variable {o : Overrides} {token : Option Text} {document : List Entry}

theorem Overrides.fieldValue_homeServer (h : NamesNoHomeServer document)
    (accessToken homeServer : Value) :
    o.fieldValue accessToken homeServer (storedCredentials document) .homeServer =
      defaultHomeServer homeServer := by
  have hs : stored FieldName.homeServer.key (storedCredentials document) = .null := by
    unfold storedCredentials
    split
    · exact h _ ‹_›
    · rfl
  rw [fieldValue, hs, firstPresent_null, firstPresent_singleton]

/-- A profile that is decoded with new credentials has its own home server in them. -/
theorem Profile.decode_homeServer {p : Profile} (hk : ¬o.KeepsCredentials token)
    (hn : Overrides.NamesNoHomeServer document)
    (h : (decode (.map (o.apply token document))).result = .ok p) :
    ∃ c t, p.credentials = some c ∧ c.homeServer = .text t ∧ p.server = .text t := by
  obtain ⟨s, i, c, pins, hs, -, hc, -, hp⟩ := decode_ok_iff.1 h
  rw [Overrides.stored_apply_serverKey] at hs
  rw [decodeCredentials_ok, Overrides.stored_apply_credentialsKey, if_neg hk, hs] at hc
  obtain ⟨hc, -⟩ | ⟨_, d, ⟨⟩, hd, rfl⟩ := hc
  · cases hc
  · obtain ⟨u, t, a, v, r, -, ht, -, -, -, rfl⟩ := Credentials.decode_ok_iff.1 hd
    rw [Overrides.stored_credentials, Overrides.fieldValue_homeServer hn] at ht
    cases ht
    obtain ⟨_, _, ⟨⟩, -, -, -, -, rfl⟩ := create_ok.1 hp
    exact ⟨_, _, rfl, rfl, rfl⟩

end

namespace Run

/-- The output is a document whose address of the home server is also the one in its credentials. -/
def AgreesOnHomeServer (output : Text) : Prop :=
  ∃ document fields t, Json.read output = .ok (.map document) ∧
    Entries.get? Profile.serverKey document = some (.text t) ∧
    Entries.get? Profile.credentialsKey document = some (.map fields) ∧
    Entries.get? FieldName.homeServer.key fields = some (.text t)

theorem agreesOnHomeServer_printed {p : Profile} {c : Credentials} {t : Text}
    (hv : p.HasValidatedCredentials) (hc : p.credentials = some c) (ht : c.homeServer = .text t)
    (hs : p.server = .text t) : AgreesOnHomeServer (printed p) := by
  refine ⟨_, Value.mapTextsMembers Wide.joinPairs
    (Entries.arrange true (Value.arrangedMembers true c.toEntries)), Wide.joinPairs t,
    read_printed hv, ?_, ?_, ?_⟩
  · rw [get?_printed, Profile.get?_serverKey, hs]
    rfl
  · rw [get?_printed, Profile.get?_credentialsKey, hc]
    rfl
  · have hg : Entries.get? FieldName.homeServer.key c.toEntries = some c.homeServer := rfl
    rw [Entries.get?_mapTextsMembers, Credentials.get?_arranged (hv c hc).holdsTexts, hg, ht]
    rfl

theorem userId_of_overrides {o : Options} {overrides : Overrides}
    (h : o.overrides = .ok overrides) :
    overrides.userId = o.userId.toValue ∧ overrides.accessToken = o.accessToken.toValue := by
  simp only [Options.overrides, Except.bind_ok] at h
  obtain ⟨_, -, h⟩ := h
  cases h
  exact ⟨rfl, rfl⟩

theorem toValue_eq_null {s : Setting Text} : s.toValue = .null ↔ s = .unset := by
  cases s <;> simp [Setting.toValue]

/-- Of a run that succeeds: when a user or a token is given, and the loaded document has no
credentials that name a home server, the printed credentials name the printed one. -/
theorem ofArguments_homeServer {read : Path → Except ReadProblem Octets} {console : Console}
    {arguments : List Text} {token : Option Text} {o : Options} {document : List Entry}
    (h : (ofArguments read console arguments token).ending = .success)
    (ho : Options.parse arguments = .ok (.options o))
    (hgiven : o.userId ≠ .unset ∨ o.accessToken ≠ .unset ∨ token ≠ none)
    (hd : (Run.document read o.config).result = .ok document)
    (hn : Overrides.NamesNoHomeServer document) :
    AgreesOnHomeServer (ofArguments read console arguments token).output := by
  rw [ofArguments, ho] at h ⊢
  obtain ⟨p, hp, ht⟩ := resolved_ok.1 (ofOptions_success h)
  have hv := resolve_validated hp
  rw [render_validated hv] at ht
  obtain ⟨stored, overrides, hstored, hoverrides, hdecode⟩ := resolve_ok.1 hp
  cases hd.symm.trans hstored
  have hk : ¬overrides.KeepsCredentials token := by
    obtain ⟨hu, ha⟩ := userId_of_overrides hoverrides
    rw [Overrides.keepsCredentials_iff, hu, ha, toValue_eq_null, toValue_eq_null]
    rintro ⟨hu, ha, ht⟩
    exact hgiven.elim (· hu) (·.elim (· ha) (· ht))
  obtain ⟨c, t, hc, hh, hs⟩ := Profile.decode_homeServer hk hn hdecode
  rw [← Except.ok.inj ht]
  exact agreesOnHomeServer_printed hv hc hh hs

/-- The user is given by an argument and the token by the environment. -/
theorem ofArguments_homeServer_one_slash :
    AgreesOnHomeServer (ofArguments (fun _ => .error .missing) .lenient
      ["--home-server-url=https://a/", "--user-id=u"] (some "t")).output := by
  have hp : (resolve (fun _ => .error .missing) { Options.initial with
      homeServer := .given "https://a/", userId := .given "u" } (some "t")).result =
        .ok ⟨.text "https://a", .null, some (.ofTexts "u" "https://a" "t" none none), []⟩ := rfl
  have ha : Options.parse ["--home-server-url=https://a/", "--user-id=u"] =
      .ok (.options { Options.initial with
        homeServer := .given "https://a/", userId := .given "u" }) := rfl
  have ho := ofOptions_ok .lenient rfl rfl
    (resolved_ok.2 ⟨_, hp, render_validated (resolve_validated hp)⟩)
  refine ofArguments_homeServer ?_ ha (.inl (by simp)) rfl fun fields h => ?_
  · rw [ofArguments, ha]
    exact ho.1
  · cases h

end Run

end ConnectionProfile
