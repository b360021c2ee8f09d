import ConnectionProfile.Proofs.Profile.TextCodec
import ConnectionProfile.Proofs.Run.Reprint

/-!
# The output as a normal form

Two profiles have the same output if and only if they have the same addresses in force, credentials
and pins, as long as no text has a surrogate pair, which is written like the code point that it
stands for. So nothing else of the arguments, the environment and the stored document is seen in
what a run prints.
-/

namespace ConnectionProfile

open Profile (HasValidatedCredentials HasTextAddresses IsNew)

section
variable {p q : Profile}

-- ---------------------------------------------------------------------------
-- The document
-- ---------------------------------------------------------------------------

namespace Profile

/-- The parts that are decoded are those of the profile. -/
theorem equivalent_of_arranged (ha : p.HasTextAddresses) (hb : q.HasTextAddresses)
    (hc : p.HasValidatedCredentials) (hd : q.HasValidatedCredentials) {sort : Bool}
    (h : p.toDocument.arranged sort = q.toDocument.arranged sort) : p.Equivalent q := by
  obtain ⟨⟨s, hs⟩, -⟩ := id ha
  obtain ⟨⟨t, ht⟩, -⟩ := id hb
  obtain ⟨i, hi⟩ := ha.effectiveIdentity
  obtain ⟨j, hj⟩ := hb.effectiveIdentity
  have hp := decodeParts_arranged hc.holdsTexts sort
  have hq := decodeParts_arranged hd.holdsTexts sort
  rw [decodeParts_toDocument hs hi hc, h, hq, decodeParts_toDocument ht hj hd] at hp
  have hparts := Except.ok.inj (congrArg Logged.result hp)
  injection hparts with hst hij hcredentials hpins
  cases hst
  cases hij
  exact ⟨hs.trans ht.symm, hi.trans hj.symm, hcredentials.symm, hpins.symm⟩

end Profile

-- ---------------------------------------------------------------------------
-- The output
-- ---------------------------------------------------------------------------

namespace Run

theorem printed_eq_iff (hp : p.IsNew) (hq : q.IsNew) (hc : p.HasValidatedCredentials)
    (hd : q.HasValidatedCredentials) (hn : ∀ t ∈ p.texts ++ q.texts, Wide.HasNoPairs t) :
    printed p = printed q ↔ p.Equivalent q := by
  refine ⟨fun h => ?_, fun h => printed_congr h.toDocument⟩
  have hjoin {r : Profile} (hr : r.HasTextAddresses) (hv : r.HasValidatedCredentials)
      (hn : ∀ t ∈ r.texts, Wide.HasNoPairs t) :
      Json.read (printed r) = .ok (r.toDocument.arranged true) := by
    rw [read_printed hv, ← Value.arranged_mapTexts, ← Profile.toDocument_mapTexts _ hr,
      Profile.mapTexts_eq_self hr hv.holdsTexts fun t ht => Wide.joinPairs_of_hasNoPairs (hn t ht)]
  have hread := hjoin hp.hasTextAddresses hc fun t ht => hn t (List.mem_append_left _ ht)
  rw [h, hjoin hq.hasTextAddresses hd fun t ht => hn t (List.mem_append_right _ ht)] at hread
  exact Profile.equivalent_of_arranged hp.hasTextAddresses hq.hasTextAddresses hc hd
    (Except.ok.inj hread).symm

/-- What a run with these options prints when it succeeds. -/
theorem ofArguments_printed {read : Path → Except ReadProblem Octets} {console : Console}
    {arguments : List Text} {token : Option Text} {o : Options}
    (h : (ofArguments read console arguments token).ending = .success)
    (ho : Options.parse arguments = .ok (.options o))
    (hp : (resolve read o token).result = .ok p) :
    (ofArguments read console arguments token).output = printed p := by
  rw [ofArguments, ho] at h ⊢
  obtain ⟨q, hq, ht⟩ := resolved_ok.1 (ofOptions_success h)
  cases hp.symm.trans hq
  rw [render_validated (resolve_validated hp)] at ht
  exact (Except.ok.inj ht).symm

/-- A run with plain records succeeds when a profile is resolved. -/
theorem ofArguments_ok {read : Path → Except ReadProblem Octets} (console : Console)
    {arguments : List Text} {token : Option Text} {o : Options} {level : Level}
    (ho : Options.parse arguments = .ok (.options o)) (hl : o.logLevel = some level)
    (hr : o.richLogs = false) (hp : (resolve read o token).result = .ok p) :
    (ofArguments read console arguments token).ending = .success ∧
      (ofArguments read console arguments token).output = printed p := by
  rw [ofArguments, ho]
  exact ofOptions_ok console hl hr (resolved_ok.2 ⟨p, hp, render_validated (resolve_validated hp)⟩)

/-- Two runs that succeed print the same octets if and only if they made profiles that say the same,
from whatever arguments, environment and files. -/
theorem ofArguments_output_eq_iff {read₁ read₂ : Path → Except ReadProblem Octets}
    {console₁ console₂ : Console} {arguments₁ arguments₂ : List Text} {token₁ token₂ : Option Text}
    {o₁ o₂ : Options}
    (h₁ : (ofArguments read₁ console₁ arguments₁ token₁).ending = .success)
    (h₂ : (ofArguments read₂ console₂ arguments₂ token₂).ending = .success)
    (ho₁ : Options.parse arguments₁ = .ok (.options o₁))
    (ho₂ : Options.parse arguments₂ = .ok (.options o₂))
    (hp : (resolve read₁ o₁ token₁).result = .ok p) (hq : (resolve read₂ o₂ token₂).result = .ok q)
    (hn : ∀ t ∈ p.texts ++ q.texts, Wide.HasNoPairs t) :
    ∃ bs cs, Utf8.encode? (ofArguments read₁ console₁ arguments₁ token₁).output = some bs ∧
      Utf8.encode? (ofArguments read₂ console₂ arguments₂ token₂).output = some cs ∧
      (bs = cs ↔ p.Equivalent q) := by
  rw [ofArguments_printed h₁ ho₁ hp, ofArguments_printed h₂ ho₂ hq]
  have hnp := isNew_of_resolve hp
  have hnq := isNew_of_resolve hq
  have hc := resolve_validated hp
  have hd := resolve_validated hq
  obtain ⟨bs, hbs, -⟩ := ofOctets_printed hnp.hasTextAddresses hc
  obtain ⟨cs, hcs, -⟩ := ofOctets_printed hnq.hasTextAddresses hd
  refine ⟨bs, cs, hbs, hcs, ?_⟩
  rw [Utf8.encode?_eq_iff hbs hcs, printed_eq_iff hnp hnq hc hd hn]

/-- A profile with one pin. -/
def pinned (hostname : Text) (identity : Value) : Profile :=
  ⟨.text "https://a", identity, none, [⟨hostname, "k"⟩]⟩

/-- A document in another order, with a member that is not asked for. -/
def onePin : List Entry :=
  [(.text Profile.pinsKey, .list [.map [(.text Pin.hashKey, .text "k"),
      (.text Pin.hostnameKey, .text "h")]]),
    (.text "x", .text "y"), (.text Profile.serverKey, .text "https://a/")]

/-- The first run has all from its arguments, and the second one from a file. -/
theorem ofArguments_output_eq_iff_one_pin :
    ∃ file, Stored.ofOctets file = .ok onePin ∧
      let run₁ := ofArguments (fun _ => .error .missing) .lenient
        ["--home-server-url=https://a", "--pin=h=k"] none
      let run₂ := ofArguments (fun _ => .ok file) .lenient ["--config=c"] none
      run₁.ending = .success ∧ run₂.ending = .success ∧
        ∃ bs, Utf8.encode? run₁.output = some bs ∧ Utf8.encode? run₂.output = some bs := by
  have hdoc : (Value.map onePin).IsDocument false := by
    refine ⟨by simp +decide [Entries.keys, onePin], ⟨_, rfl, rfl⟩, ⟨?_, trivial⟩, ⟨_, rfl, rfl⟩,
      trivial, ⟨_, rfl, rfl⟩, trivial, trivial⟩
    exact ⟨by simp +decide [Entries.keys], ⟨_, rfl, rfl⟩, trivial, ⟨_, rfl, rfl⟩, trivial, trivial⟩
  obtain ⟨file, hf⟩ := exists_file hdoc rfl
  refine ⟨file, hf, ?_⟩
  have ho₁ : Options.parse ["--home-server-url=https://a", "--pin=h=k"] =
      .ok (.options { Options.initial with
        homeServer := .given "https://a", pins := some [some ⟨"h", "k"⟩] }) := rfl
  have ho₂ : Options.parse ["--config=c"] =
      .ok (.options (naming (.ofText "c") .info)) := rfl
  have hp : (resolve (fun _ => .error .missing) { Options.initial with
      homeServer := .given "https://a", pins := some [some ⟨"h", "k"⟩] } none).result =
        .ok (pinned "h" .null) := rfl
  have hq : (resolve (fun _ => .ok file) (naming (.ofText "c") .info) none).result =
      .ok (pinned "h" .null) :=
    resolve_ok.2 ⟨_, _, document_ok.2 hf, rfl, rfl⟩
  have hs₁ := (ofArguments_ok .lenient ho₁ rfl rfl hp).1
  have hs₂ := (ofArguments_ok .lenient ho₂ rfl rfl hq).1
  obtain ⟨bs, cs, hbs, hcs, h⟩ := ofArguments_output_eq_iff hs₁ hs₂ ho₁ ho₂ hp hq (by decide)
  obtain rfl := h.2 ⟨rfl, rfl, rfl, rfl⟩
  exact ⟨hs₁, hs₂, bs, hbs, hcs⟩

/-- A pin for a host name beyond sixteen bits is printed like one for its two surrogates, which is
what the output is read back as. -/
theorem not_output_eq_iff_surrogate_pair :
    ¬∀ (read₁ read₂ : Path → Except ReadProblem Octets) (console₁ console₂ : Console)
      (arguments₁ arguments₂ : List Text) (o₁ o₂ : Options) (p q : Profile),
      (ofArguments read₁ console₁ arguments₁ none).ending = .success →
      (ofArguments read₂ console₂ arguments₂ none).ending = .success →
      Options.parse arguments₁ = .ok (.options o₁) → Options.parse arguments₂ = .ok (.options o₂) →
      (resolve read₁ o₁ none).result = .ok p → (resolve read₂ o₂ none).result = .ok q →
      (∀ v ∈ [p.server, p.effectiveIdentity, q.server, q.effectiveIdentity],
        ∀ t ∈ v.text?, Wide.HasNoPairs t) →
      ((ofArguments read₁ console₁ arguments₁ none).output =
          (ofArguments read₂ console₂ arguments₂ none).output ↔ p.Equivalent q) := by
  intro h
  have hv : (pinned [0x1F600] .null).HasValidatedCredentials := fun _ h => nomatch h
  have ha : (pinned [0x1F600] .null).HasTextAddresses := ⟨⟨_, rfl⟩, .inl rfl⟩
  have ho₁ : Options.parse ["--home-server-url=https://a", ("--pin=" : Text) ++ 0x1F600 :: "=k"] =
      .ok (.options { Options.initial with
        homeServer := .given "https://a", pins := some [some ⟨[0x1F600], "k"⟩] }) := rfl
  have hp : (resolve (fun _ => .error .missing) { Options.initial with
      homeServer := .given "https://a", pins := some [some ⟨[0x1F600], "k"⟩] } none).result =
        .ok (pinned [0x1F600] .null) := rfl
  obtain ⟨hs₁, ht₁⟩ := ofArguments_ok .lenient ho₁ rfl rfl hp
  obtain ⟨file, -, entries, hentries, hdoc⟩ := ofOctets_printed ha hv
  have hd : (Profile.decode (.map entries)).result =
      .ok (pinned [0xD83D, 0xDE00] (.text "https://a")) := by
    rw [hdoc, Profile.decode_arranged (hv.mapTexts _).holdsTexts]
    rfl
  have ho₂ := parse_naming (t := "c") (by decide)
  have hq : (resolve (fun _ => .ok file) (naming (.ofText "c") .info) none).result =
      .ok (pinned [0xD83D, 0xDE00] (.text "https://a")) := by
    refine resolve_ok.2 ⟨entries, .none, document_ok.2 hentries, rfl, ?_⟩
    rwa [Overrides.apply_none]
  obtain ⟨hs₂, ht₂⟩ := ofArguments_ok .lenient ho₂ rfl rfl hq
  have hpq : printed (pinned [0x1F600] .null) =
      printed (pinned [0xD83D, 0xDE00] (.text "https://a")) := by
    rw [← printed_halves ha]
    rfl
  obtain ⟨-, -, -, hpins⟩ := (h _ _ _ _ _ _ _ _ _ _ hs₁ hs₂ ho₁ ho₂ hp hq (by decide)).1
    (ht₁.trans (hpq.trans ht₂.symm))
  cases hpins

end Run

end

end ConnectionProfile
