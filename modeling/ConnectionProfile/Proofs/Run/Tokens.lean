import ConnectionProfile.Proofs.Overrides.Masked
import ConnectionProfile.Proofs.Profile.Complaints
import ConnectionProfile.Proofs.Run.Status

/-!
# Tokens in runs

Two runs that differ in nothing but the texts of tokens end alike and make the same records, and
what they print differs in nothing but tokens. The document of either run is followed through the
stages with its tokens hidden, where it is the same for both.
-/

namespace ConnectionProfile

-- ---------------------------------------------------------------------------
-- Options
-- ---------------------------------------------------------------------------

def Setting.masked : Setting Text → Setting Text
  | .given _ => .given []
  | s => s

theorem Setting.toValue_masked (s : Setting Text) : s.masked.toValue = s.toValue.masked := by
  cases s <;> rfl

namespace Options

def masked (o : Options) : Options := { o with accessToken := o.accessToken.masked }

@[simp] theorem masked_config (o : Options) : o.masked.config = o.config := rfl

@[simp] theorem masked_logLevel (o : Options) : o.masked.logLevel = o.logLevel := rfl

@[simp] theorem masked_logStyle (o : Options) : o.masked.logStyle = o.logStyle := rfl

theorem overrides_masked (o : Options) : o.masked.overrides = o.overrides.map Overrides.masked := by
  rw [overrides, overrides, masked]
  cases givenPins o.pins with
  | error e => rfl
  | ok pins => exact congrArg Except.ok (by simp [Overrides.masked, Setting.toValue_masked])

end Options

namespace Run

section
variable (read : Path → Except ReadProblem Octets) (o : Options) (token : Option Text)

/-- What is wrong with the credentials of the document, in full. A record says `<ValidationError>`
instead. -/
def complaints : List (Problem × Option Value) :=
  match (merged read o token).result with
  | .ok entries => Credentials.complaints (Overrides.storedCredentials entries)
  | .error _ => []

theorem ofMerged_maskEntries (entries : List Entry) :
    ofMerged (Profile.maskEntries entries) = (ofMerged entries).map Profile.masked := by
  have hd : Profile.decode (.map (Profile.maskEntries entries)) = _ :=
    Profile.decode_maskTokens (.map entries)
  simp only [ofMerged, hd, ← Logged.map_mapError, Logged.bind_map, Logged.map_bind,
    Logged.map_pure, Profile.quoted_masked]

theorem resolve_masked : (resolve read o token).map Profile.masked =
    (merged read o token).map Profile.maskEntries >>= ofMerged := by
  simp only [resolve, Logged.map_bind, Logged.bind_map, ofMerged_maskEntries]

theorem merged_masked : (merged read o token).map Profile.maskEntries =
    (document read o.config).map Profile.maskEntries >>= fun stored =>
      Logged.ofExcept o.masked.overrides >>= fun overrides =>
        pure (overrides.apply (token.map fun _ => []) stored) := by
  have ho : Logged.ofExcept o.masked.overrides =
      (Logged.ofExcept (o.overrides)).map Overrides.masked := by
    rw [Options.overrides_masked]
    rfl
  simp only [merged, ho, Logged.map_bind, Logged.bind_map, Logged.map_pure,
    Overrides.apply_masked]

/-- What was resolved can be printed. -/
theorem resolved_eq : resolved read o token = (resolve read o token).map printed := by
  have h : ∀ p, (resolve read o token).result = .ok p → render p = .ok (printed p) :=
    fun p hp => render_validated (resolve_validated hp)
  rw [resolved]
  generalize resolve read o token = x at h ⊢
  obtain ⟨records, result⟩ := x
  cases result with
  | error e => rfl
  | ok p =>
    change Logged.mk (records ++ []) (render p) = ⟨records, .ok (printed p)⟩
    rw [List.append_nil, h p rfl]

end

/-- Profiles that differ in their tokens only are printed alike, but for the tokens. -/
theorem dropTokens_printed {p q : Profile} (hp : p.HasValidatedCredentials)
    (hq : q.HasValidatedCredentials) (h : p.masked = q.masked) :
    ∃ v w, Json.read (printed p) = .ok v ∧ Json.read (printed q) = .ok w ∧
      Profile.dropTokens v = Profile.dropTokens w := by
  have hd (r : Profile) : Profile.dropTokens
      ((r.toDocument.arranged true).mapTexts Wide.joinPairs) =
        Profile.dropTokens ((r.masked.toDocument.arranged true).mapTexts Wide.joinPairs) := by
    rw [Profile.toDocument_masked, Profile.arranged_maskTokens, Profile.mapTexts_maskTokens rfl,
      Profile.dropTokens_maskTokens]
  exact ⟨_, _, read_printed hp, read_printed hq, by rw [hd p, hd q, h]⟩

-- ---------------------------------------------------------------------------
-- Runs without their output
-- ---------------------------------------------------------------------------

def silent (r : Run) : Run := { r with output := [] }

theorem silent_ofLogged (x : Logged RunError Text) :
    (ofLogged x).silent = ofLogged (x.map fun _ => []) := by
  obtain ⟨records, result⟩ := x
  cases result with
  | ok t => rfl
  | error e => cases h : e.message? <;> simp [ofLogged, Logged.map, Except.map, h, silent]

theorem silent_shownWhile (shows : Record → Bool) (r : Run) :
    (r.shownWhile shows).silent = r.silent.shownWhile shows := by
  have hr : r.silent.records = r.records := rfl
  unfold shownWhile
  rw [hr]
  split <;> rfl

theorem silent_ofOptions (read : Path → Except ReadProblem Octets) (console : Console)
    (o : Options) (token : Option Text) : (ofOptions read console o token).silent =
      match o.logLevel with
      | none => ⟨[], [], .abort .blankLevel⟩
      | some level =>
        let setup := LogSetup.initial.configure (.level level) o.logStyle
        ((ofLogged ((resolve read o token).map fun _ => [])).keeping setup.threshold).shownWhile
          (shows console (foreign? read o token) o.logStyle) := by
  have hx : (resolved read o token).map (fun _ => []) =
      (resolve read o token).map fun _ => ([] : Text) := by
    rw [resolved_eq, Logged.map_map]
  have hk (t : Threshold) (r : Run) : (r.keeping t).silent = r.silent.keeping t := rfl
  rw [ofOptions]
  cases o.logLevel with
  | none => rfl
  | some level => simp only [silent_shownWhile, hk, silent_ofLogged, hx]

-- ---------------------------------------------------------------------------
-- Two runs
-- ---------------------------------------------------------------------------

/-- Two runs differ at most in the texts of tokens: the one among the arguments, the one in the
environment and those in the stored document. -/
structure SameButTokens (read₁ read₂ : Path → Except ReadProblem Octets) (o₁ o₂ : Options)
    (token₁ token₂ : Option Text) : Prop where
  options : o₁.masked = o₂.masked
  environment : token₁.isSome = token₂.isSome
  stored : ∀ path, o₁.config = .given path → read₁ path = read₂ path ∨
    ∃ d₁ d₂, Stored.load read₁ path = .ok d₁ ∧ Stored.load read₂ path = .ok d₂ ∧
      Profile.maskEntries d₁ = Profile.maskEntries d₂

namespace SameButTokens

variable {read₁ read₂ : Path → Except ReadProblem Octets} {o₁ o₂ : Options}
  {token₁ token₂ : Option Text}

theorem document_eq (h : SameButTokens read₁ read₂ o₁ o₂ token₁ token₂) :
    (document read₁ o₁.config).map Profile.maskEntries =
      (document read₂ o₂.config).map Profile.maskEntries := by
  have hc : o₁.config = o₂.config := by simpa using congrArg Options.config h.options
  have hs := h.stored
  rw [← hc]
  cases hp : o₁.config with
  | given path =>
    have hl : (Stored.load read₁ path).map Profile.maskEntries =
        (Stored.load read₂ path).map Profile.maskEntries := by
      obtain hr | ⟨d₁, d₂, h₁, h₂, hd⟩ := hs path hp
      · rw [Stored.load, Stored.load, hr]
      · rw [h₁, h₂]
        exact congrArg Except.ok hd
    have hm (x : Except LoadError (List Entry)) :
        (Logged.ofExcept (x.mapError (RunError.load path))).map Profile.maskEntries =
          .ofExcept ((x.map Profile.maskEntries).mapError (.load path)) := by
      cases x <;> rfl
    simp only [document, Logged.map_bind, hm, hl]
  | _ => rfl

theorem merged_eq (h : SameButTokens read₁ read₂ o₁ o₂ token₁ token₂) :
    (merged read₁ o₁ token₁).map Profile.maskEntries =
      (merged read₂ o₂ token₂).map Profile.maskEntries := by
  have ht : (token₁.map fun _ => ([] : Text)) = token₂.map fun _ => [] := by
    have he := h.environment
    cases token₁ <;> cases token₂ <;> first | rfl | cases he
  rw [merged_masked, merged_masked, h.document_eq, h.options, ht]

theorem resolve_eq (h : SameButTokens read₁ read₂ o₁ o₂ token₁ token₂) :
    (resolve read₁ o₁ token₁).map Profile.masked =
      (resolve read₂ o₂ token₂).map Profile.masked := by
  rw [resolve_masked, resolve_masked, h.merged_eq]

theorem complaints_eq (h : SameButTokens read₁ read₂ o₁ o₂ token₁ token₂) :
    complaints read₁ o₁ token₁ = complaints read₂ o₂ token₂ := by
  unfold complaints
  obtain ⟨-, ⟨d₁, d₂, h₁, h₂, hd⟩ | ⟨e, h₁, h₂⟩⟩ := Logged.map_eq_map.1 h.merged_eq
  · simp only [h₁, h₂]
    rw [← Credentials.complaints_maskFields, ← Overrides.storedCredentials_maskEntries, hd,
      Overrides.storedCredentials_maskEntries, Credentials.complaints_maskFields]
  · simp only [h₁, h₂]

/-- A document that cannot be loaded has no tokens to differ in. -/
theorem read_eq (h : SameButTokens read₁ read₂ o₁ o₂ token₁ token₂) {path : Path}
    {cause : LoadError} (he : (merged read₁ o₁ token₁).result = .error (.load path cause)) :
    read₁ path = read₂ path := by
  obtain hd | ⟨_, -, ho⟩ := merged_error.1 he
  · obtain ⟨_, _, hc, hl, ⟨⟩⟩ := document_error.1 hd
    obtain hr | ⟨_, _, h₁, -⟩ := h.stored path hc
    · exact hr
    · cases hl.symm.trans h₁
  · obtain ⟨-, ⟨⟩⟩ := Options.overrides_error.1 ho

theorem foreign?_eq (h : SameButTokens read₁ read₂ o₁ o₂ token₁ token₂) :
    foreign? read₁ o₁ token₁ = foreign? read₂ o₂ token₂ := by
  unfold foreign?
  obtain ⟨-, ⟨d₁, d₂, h₁, h₂, hd⟩ | ⟨e, h₁, h₂⟩⟩ := Logged.map_eq_map.1 h.merged_eq
  · simp only [h₁, h₂]
    rw [← Profile.foreign?_maskEntries, hd, Profile.foreign?_maskEntries]
  · simp only [h₁, h₂]
    cases e with
    | load path cause =>
      cases cause with
      | yaml fault => simp only [h.read_eq h₁]
      | _ => rfl
    | _ => rfl

theorem silent_eq (h : SameButTokens read₁ read₂ o₁ o₂ token₁ token₂) (console : Console) :
    (ofOptions read₁ console o₁ token₁).silent = (ofOptions read₂ console o₂ token₂).silent := by
  have hl : o₁.logLevel = o₂.logLevel := by simpa using congrArg Options.logLevel h.options
  have hs : o₁.logStyle = o₂.logStyle := by simpa using congrArg Options.logStyle h.options
  have hr : (resolve read₁ o₁ token₁).map (fun _ => ([] : Text)) =
      (resolve read₂ o₂ token₂).map fun _ => [] := by
    have hc := congrArg (Logged.map fun _ => ([] : Text)) h.resolve_eq
    rwa [Logged.map_map, Logged.map_map] at hc
  rw [silent_ofOptions, silent_ofOptions, hl, hs, hr, h.foreign?_eq]

end SameButTokens

/-- No record tells a token, and nor does the way in which a run ends, nor what a record leaves out.
The output is the same apart from the tokens. -/
theorem ofArguments_tokens_unobserved {read₁ read₂ : Path → Except ReadProblem Octets}
    {console : Console} {arguments₁ arguments₂ : List Text} {token₁ token₂ : Option Text}
    {o₁ o₂ : Options} (h₁ : Options.parse arguments₁ = .ok (.options o₁))
    (h₂ : Options.parse arguments₂ = .ok (.options o₂))
    (h : SameButTokens read₁ read₂ o₁ o₂ token₁ token₂) :
    (ofArguments read₁ console arguments₁ token₁).ending =
        (ofArguments read₂ console arguments₂ token₂).ending ∧
      (ofArguments read₁ console arguments₁ token₁).records =
        (ofArguments read₂ console arguments₂ token₂).records ∧
      complaints read₁ o₁ token₁ = complaints read₂ o₂ token₂ ∧
      ((ofArguments read₁ console arguments₁ token₁).ending = .success →
        ∃ v₁ v₂, Json.read (ofArguments read₁ console arguments₁ token₁).output = .ok v₁ ∧
          Json.read (ofArguments read₂ console arguments₂ token₂).output = .ok v₂ ∧
          Profile.dropTokens v₁ = Profile.dropTokens v₂) := by
  have he₁ : ofArguments read₁ console arguments₁ token₁ = ofOptions read₁ console o₁ token₁ := by
    rw [ofArguments, h₁]
  have he₂ : ofArguments read₂ console arguments₂ token₂ = ofOptions read₂ console o₂ token₂ := by
    rw [ofArguments, h₂]
  rw [he₁, he₂]
  have hending : (ofOptions read₁ console o₁ token₁).silent.ending =
      (ofOptions read₂ console o₂ token₂).silent.ending := by rw [h.silent_eq console]
  have hrecords : (ofOptions read₁ console o₁ token₁).silent.records =
      (ofOptions read₂ console o₂ token₂).silent.records := by rw [h.silent_eq console]
  refine ⟨hending, hrecords, h.complaints_eq, fun hs => ?_⟩
  have hr₁ := ofOptions_success hs
  have hr₂ := ofOptions_success (hending.symm.trans hs)
  rw [resolved_eq] at hr₁ hr₂
  obtain ⟨p, hp, ho₁⟩ := Logged.map_ok.1 hr₁
  obtain ⟨q, hq, ho₂⟩ := Logged.map_ok.1 hr₂
  have hpq : p.masked = q.masked := by
    obtain ⟨r, hr, hm⟩ := Logged.map_ok.1 (h.resolve_eq ▸ Logged.map_ok.2 ⟨p, hp, rfl⟩)
    rw [← hm, Except.ok.inj (hr.symm.trans hq)]
  rw [← ho₁, ← ho₂]
  exact dropTokens_printed (resolve_validated hp) (resolve_validated hq) hpq

/-- A document of a user with two tokens. -/
def twoTokens (accessToken refreshToken : Text) : List Entry :=
  [(.text Profile.serverKey, .text "https://a"),
    (.text Profile.credentialsKey, .map [(.text "user_id", .text "u"),
      (.text "home_server", .text "https://a"), (.text "access_token", .text accessToken),
      (.text "refresh_token", .text refreshToken)])]

/-- The files hold other tokens, and so do the arguments and the environment. -/
theorem ofArguments_tokens_unobserved_everywhere :
    ∃ file₁ file₂, Stored.ofOctets file₁ = .ok (twoTokens "s" "r") ∧
      Stored.ofOctets file₂ = .ok (twoTokens "t" "q") ∧
      let run₁ := ofArguments (fun _ => .ok file₁) .lenient
        ["--config=c", "--log-level=DEBUG", "--access-token=x"] (some "e")
      let run₂ := ofArguments (fun _ => .ok file₂) .lenient
        ["--config=c", "--log-level=DEBUG", "--access-token=y"] (some "")
      run₁.ending = .success ∧ run₁.records = run₂.records ∧
        ∃ v₁ v₂, Json.read run₁.output = .ok v₁ ∧ Json.read run₂.output = .ok v₂ ∧
          Profile.dropTokens v₁ = Profile.dropTokens v₂ := by
  have hd (a r : Text) : (Value.map (twoTokens a r)).IsDocument false := by
    refine ⟨by simp +decide [Entries.keys, twoTokens], ⟨_, rfl, rfl⟩, trivial, ⟨_, rfl, rfl⟩,
      ⟨by simp +decide [Entries.keys], ?_⟩, trivial⟩
    exact ⟨⟨_, rfl, rfl⟩, trivial, ⟨_, rfl, rfl⟩, trivial, ⟨_, rfl, rfl⟩, trivial, ⟨_, rfl, rfl⟩,
      trivial, trivial⟩
  have hfile {a r : Text}
      (h : (Value.map (twoTokens a r)).mapTexts Wide.halves = .map (twoTokens a r)) :
      ∃ file, Stored.ofOctets file = .ok (twoTokens a r) := by
    have hg : Yaml.IsGap [] := by decide
    obtain ⟨file, -, hr⟩ := Yaml.read_write layout_isFlow (hd a r) hg
    refine ⟨file, ?_⟩
    rw [Stored.ofOctets, hr, h]
  obtain ⟨file₁, h₁⟩ := hfile (a := "s") (r := "r") rfl
  obtain ⟨file₂, h₂⟩ := hfile (a := "t") (r := "q") rfl
  refine ⟨file₁, file₂, h₁, h₂, ?_⟩
  have hp₁ : Options.parse ["--config=c", "--log-level=DEBUG", "--access-token=x"] =
      .ok (.options { naming (.ofText "c") .debug with accessToken := .given "x" }) := rfl
  have hp₂ : Options.parse ["--config=c", "--log-level=DEBUG", "--access-token=y"] =
      .ok (.options { naming (.ofText "c") .debug with accessToken := .given "y" }) := rfl
  have hs : SameButTokens (fun _ => .ok file₁) (fun _ => .ok file₂)
      { naming (.ofText "c") .debug with accessToken := .given "x" }
      { naming (.ofText "c") .debug with accessToken := .given "y" } (some "e") (some "") :=
    ⟨rfl, rfl, fun _ _ => .inr ⟨_, _, h₁, h₂, rfl⟩⟩
  obtain ⟨-, hrecords, -, houtput⟩ := ofArguments_tokens_unobserved hp₁ hp₂ hs
  have hr : (resolve (fun _ => .ok file₁)
      { naming (.ofText "c") .debug with accessToken := .given "x" } (some "e")).result =
        .ok ⟨.text "https://a", .null, some (.ofTexts "u" "https://a" "x" none (some "r")), []⟩ :=
    resolve_ok.2 ⟨_, _, document_ok.2 h₁, rfl, rfl⟩
  have hending := (ofOptions_ok .lenient rfl rfl
    (resolved_ok.2 ⟨_, hr, render_validated (resolve_validated hr)⟩)).1
  exact ⟨hending, hrecords, houtput hending⟩

end Run

end ConnectionProfile
