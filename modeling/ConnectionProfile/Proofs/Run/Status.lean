import ConnectionProfile.Proofs.Profile.Creation
import ConnectionProfile.Proofs.Run.Reprint
import Mathlib.Data.List.TakeWhile

/-!
# Statuses of runs

A run says what went wrong and returns a status, unless the error is one that it does not look for.
`Escapes` lists those, and `ofArguments_returns` says that there are no others.
-/

namespace ConnectionProfile

-- ---------------------------------------------------------------------------
-- Errors of the parts
-- ---------------------------------------------------------------------------

namespace Options

theorem givenPins_error {pins : Option (List (Option Pin))} {e : RunError} :
    givenPins pins = .error e ↔ (∃ ps ∈ pins, none ∈ ps) ∧ e = .blankPin := by
  cases pins with
  | none => simp [givenPins]
  | some ps =>
    have hn : ps.all Option.isSome = false ↔ none ∈ ps := by simp
    cases hp : ps.all Option.isSome with
    | true => simp [givenPins, hp, ← hn]
    | false => simp [givenPins, hp, hn.1 hp, eq_comm]

theorem overrides_error {o : Options} {e : RunError} :
    o.overrides = .error e ↔ (∃ ps ∈ o.pins, none ∈ ps) ∧ e = .blankPin := by
  rw [← givenPins_error, overrides, Except.bind_error]
  constructor
  · rintro (h | ⟨_, _, ⟨⟩⟩)
    exact h
  · exact .inl

end Options

namespace Stored

variable {read : Path → Except ReadProblem Octets} {path : Path}

theorem ofOctets_yaml {content : Octets} {fault : Yaml.Fault} :
    ofOctets content = .error (.yaml fault) ↔ Yaml.read content = .error fault := by
  unfold ofOctets
  cases Yaml.read content with
  | error f => simp
  | ok v => cases v <;> simp

theorem load_unreadable {problem : ReadProblem} :
    load read path = .error (.unreadable problem) ↔ read path = .error problem := by
  unfold load
  cases read path with
  | error p => simp
  | ok content =>
    simp only [reduceCtorEq, iff_false]
    unfold ofOctets
    cases Yaml.read content with
    | error f => simp
    | ok v => cases v <;> simp

theorem load_yaml {fault : Yaml.Fault} :
    load read path = .error (.yaml fault) ↔
      ∃ content, read path = .ok content ∧ Yaml.read content = .error fault := by
  unfold load
  cases read path with
  | error p => simp
  | ok content => simp [ofOctets_yaml]

end Stored

namespace RunError

theorem problemName?_eq_none {problem : ReadProblem} :
    problemName? problem = none ↔ problem = .zeroCharacter ∨ problem = .notEncodable := by
  cases problem <;> simp [problemName?]

theorem faultName?_eq_none {fault : Yaml.Fault} :
    faultName? fault = none ↔ fault ≠ .malformed ∧ fault ≠ .unclosed ∧ fault ≠ .notUnicode := by
  cases fault <;> simp [faultName?]

theorem message?_load {path : Path} {cause : LoadError} :
    (load path cause).message? = none ↔
      (∃ problem, cause = .unreadable problem ∧
        (problem = .zeroCharacter ∨ problem = .notEncodable)) ∨
      ∃ fault, cause = .yaml fault ∧
        fault ≠ .malformed ∧ fault ≠ .unclosed ∧ fault ≠ .notUnicode := by
  cases cause <;> simp [message?, problemName?_eq_none, faultName?_eq_none]

end RunError

namespace Run

variable {read : Path → Except ReadProblem Octets} {console : Console} {o : Options}
  {token : Option Text}

theorem document_error {setting : Setting Path} {e : RunError} :
    (document read setting).result = .error e ↔
      ∃ path cause, setting = .given path ∧ Stored.load read path = .error cause ∧
        e = .load path cause := by
  cases setting with
  | given path =>
    have hd : (document read (.given path)).result =
        (Stored.load read path).mapError (.load path) := rfl
    rw [hd, Except.mapError_error]
    constructor
    · rintro ⟨cause, hl, rfl⟩
      exact ⟨_, cause, rfl, hl, rfl⟩
    · rintro ⟨_, cause, ⟨⟩, hl, rfl⟩
      exact ⟨cause, hl, rfl⟩
  | _ => exact ⟨fun h => (nomatch h), fun ⟨_, _, h, _⟩ => (nomatch h)⟩

theorem merged_error {e : RunError} : (merged read o token).result = .error e ↔
    (document read o.config).result = .error e ∨
      ∃ stored, (document read o.config).result = .ok stored ∧ o.overrides = .error e := by
  simp only [merged, Logged.bind_result_error, Logged.ofExcept, Logged.pure_result, reduceCtorEq,
    and_false, exists_false, or_false]

theorem ofMerged_error {entries : List Entry} {e : RunError} :
    (ofMerged entries).result = .error e ↔
      ∃ cause, (Profile.decode (.map entries)).result = .error cause ∧ .profile cause = e := by
  simp only [ofMerged, Logged.bind_result_error, Logged.mapError_error, Logged.log,
    Logged.pure_result, reduceCtorEq, and_false, exists_false, or_false]

theorem resolve_error {e : RunError} : (resolve read o token).result = .error e ↔
    (document read o.config).result = .error e ∨
      ∃ stored, (document read o.config).result = .ok stored ∧
        (o.overrides = .error e ∨ ∃ overrides, o.overrides = .ok overrides ∧
          ∃ cause, (Profile.decode (.map (overrides.apply token stored))).result = .error cause ∧
            RunError.profile cause = e) := by
  simp only [resolve, Logged.bind_result_error, merged_error, merged_ok, ofMerged_error]
  constructor
  · rintro ((hd | ⟨stored, hd, ho⟩) | ⟨_, ⟨stored, overrides, hd, ho, rfl⟩, hp⟩)
    · exact .inl hd
    · exact .inr ⟨stored, hd, .inl ho⟩
    · exact .inr ⟨stored, hd, .inr ⟨overrides, ho, hp⟩⟩
  · rintro (hd | ⟨stored, hd, ho | ⟨overrides, ho, hp⟩⟩)
    · exact .inl (.inl hd)
    · exact .inl (.inr ⟨stored, hd, ho⟩)
    · exact .inr ⟨_, ⟨stored, overrides, hd, ho, rfl⟩, hp⟩

/-- A profile that was resolved can be printed. -/
theorem resolved_error {e : RunError} :
    (resolved read o token).result = .error e ↔ (resolve read o token).result = .error e := by
  rw [resolved, Logged.bind_result_error]
  constructor
  · rintro (h | ⟨p, hp, h⟩)
    · exact h
    · have ht : render p = .error e := h
      rw [render_validated (resolve_validated hp)] at ht
      cases ht
  · exact .inl

-- ---------------------------------------------------------------------------
-- Errors without a message
-- ---------------------------------------------------------------------------

/-- Every error of the decoder has a message, as the addresses of a document are texts. -/
theorem message?_of_decode {v : Value} {cause : Profile.Error}
    (h : (Profile.decode v).result = .error cause) : (RunError.profile cause).message? ≠ none := by
  cases cause with
  | decode => exact Option.some_ne_none _
  | invalid cause =>
    cases cause with
    | unwritable =>
      simp only [Profile.decode, Logged.bind_result_error, Logged.mapError_error] at h
      obtain ⟨_, -, ⟨⟩⟩ | ⟨_, -, _, hc, ⟨⟩⟩ := h
      exact absurd hc Profile.create_texts_ne_unwritable
    | _ => exact Option.some_ne_none _

/-- With these options a run meets an error of which nothing is said. -/
inductive EndsAtOnce (read : Path → Except ReadProblem Octets) (o : Options) : Prop
  | problem {path : Path} {problem : ReadProblem} (hc : o.config = .given path)
      (hr : read path = .error problem) (hn : problem = .zeroCharacter ∨ problem = .notEncodable)
  | fault {path : Path} {content : Octets} {fault : Yaml.Fault} (hc : o.config = .given path)
      (hr : read path = .ok content) (hf : Yaml.read content = .error fault)
      (hn : fault ≠ .malformed ∧ fault ≠ .unclosed ∧ fault ≠ .notUnicode)
  | blankPin {stored : List Entry} {pins : List (Option Pin)}
      (hd : (document read o.config).result = .ok stored) (hp : o.pins = some pins)
      (hb : none ∈ pins)

theorem resolved_endsAtOnce :
    (∃ e, (resolved read o token).result = .error e ∧ e.message? = none) ↔
      EndsAtOnce read o := by
  simp only [resolved_error, resolve_error, document_error, Options.overrides_error]
  constructor
  · rintro ⟨e, ⟨path, cause, hc, hl, rfl⟩ | ⟨stored, hd, h⟩, hn⟩
    · obtain ⟨problem, rfl, hp⟩ | ⟨fault, rfl, hf⟩ := RunError.message?_load.1 hn
      · exact .problem hc (Stored.load_unreadable.1 hl) hp
      · obtain ⟨content, hr, hy⟩ := Stored.load_yaml.1 hl
        exact .fault hc hr hy hf
    · obtain ⟨⟨pins, hp, hb⟩, -⟩ | ⟨_, -, cause, hcause, rfl⟩ := h
      · exact .blankPin hd hp hb
      · exact absurd hn (message?_of_decode hcause)
  · rintro (⟨hc, hr, hn⟩ | ⟨hc, hr, hf, hn⟩ | ⟨hd, hp, hb⟩)
    · exact ⟨_, .inl ⟨_, _, hc, Stored.load_unreadable.2 hr, rfl⟩,
        RunError.message?_load.2 (.inl ⟨_, rfl, hn⟩)⟩
    · exact ⟨_, .inl ⟨_, _, hc, Stored.load_yaml.2 ⟨_, hr, hf⟩, rfl⟩,
        RunError.message?_load.2 (.inr ⟨_, rfl, hn⟩)⟩
    · exact ⟨_, .inr ⟨_, hd, .inl ⟨⟨_, hp, hb⟩, rfl⟩⟩, rfl⟩

-- ---------------------------------------------------------------------------
-- The status
-- ---------------------------------------------------------------------------

/-- Success and failure are told by a status. -/
def Returns (r : Run) : Prop := ∃ n ≤ 1, r.ending.status? = some n

theorem ofLogged_returns {x : Logged RunError Text} :
    (ofLogged x).Returns ↔ ¬∃ e, x.result = .error e ∧ e.message? = none := by
  unfold ofLogged Returns
  cases hx : x.result with
  | ok t => simp [Ending.status?]
  | error e =>
    cases hm : e.message? with
    | none => simp [Ending.status?, hm]
    | some message => simp [Ending.status?, hm]

theorem shownWhile_returns {shows : Record → Bool} {r : Run} :
    (r.shownWhile shows).Returns ↔ r.Returns ∧ ∀ record ∈ r.records, shows record = true := by
  rw [← List.dropWhile_eq_nil_iff, shownWhile]
  cases r.records.dropWhile shows with
  | nil => simp
  | cons record rs => simp [Returns, Ending.status?]

/-- What ends a run without a status. -/
inductive Escapes (read : Path → Except ReadProblem Octets) (console : Console) (o : Options)
    (token : Option Text) : Prop
  | blankLevel (hl : o.logLevel = none)
  | atOnce (h : EndsAtOnce read o)
  | markup {level : Level} {record : Record} (hl : o.logLevel = some level)
      (hr : o.richLogs = true) (hm : record ∈ (ofLogged (resolved read o token)).records)
      (hk : (Threshold.level level).keeps record = true)
      (hs : console.shows (console.spoken (foreign? read o token) record) = false)

theorem shows_logStyle {foreign : Option ForeignError} {record : Record} :
    shows console foreign o.logStyle record = false ↔
      o.richLogs = true ∧ console.shows (console.spoken foreign record) = false := by
  rw [Options.logStyle]
  cases o.richLogs <;> simp [shows]

theorem ofOptions_returns :
    (ofOptions read console o token).Returns ↔ ¬Escapes read console o token := by
  unfold ofOptions
  cases hl : o.logLevel with
  | none =>
    exact iff_of_false (fun ⟨_, _, h⟩ => nomatch h) fun h => h (.blankLevel hl)
  | some level =>
    have hk (t : Threshold) (r : Run) : (r.keeping t).Returns ↔ r.Returns := Iff.rfl
    simp only [shownWhile_returns, hk, ofLogged_returns, resolved_endsAtOnce]
    constructor
    · rintro ⟨hu, hs⟩ (hl' | hu' | ⟨hl', hr, hm, hk, hn⟩)
      · rw [hl] at hl'
        cases hl'
      · exact hu hu'
      · rw [hl] at hl'
        cases hl'
        have h := hs _ (List.mem_filter.2 ⟨hm, hk⟩)
        rw [shows_logStyle.2 ⟨hr, hn⟩] at h
        cases h
    · intro h
      refine ⟨fun hu => h (.atOnce hu), fun record hm => ?_⟩
      obtain ⟨hm, hk⟩ := List.mem_filter.1 hm
      cases hs : shows console (foreign? read o token) o.logStyle record with
      | true => rfl
      | false =>
        obtain ⟨hr, hn⟩ := shows_logStyle.1 hs
        exact absurd (.markup hl hr hm hk hn) h

/-- Whatever the arguments name and the environment holds, a run returns 0 or 1, unless the level or
a pin is blank, the path cannot be one, the document has a fault that is not looked for, or a record
cannot be shown. -/
theorem ofArguments_returns {arguments : List Text} {parsed : Options.Parsed}
    (h : Options.parse arguments = .ok parsed) :
    (ofArguments read console arguments token).Returns ↔
      ∀ o, parsed = .options o → ¬Escapes read console o token := by
  rw [ofArguments, h]
  cases parsed with
  | help =>
    refine iff_of_true ⟨0, by decide, rfl⟩ ?_
    rintro _ ⟨⟩
  | options o =>
    rw [ofOptions_returns]
    constructor
    · rintro h _ ⟨⟩
      exact h
    · exact fun h => h o rfl

/-- A document that is missing is only told of. -/
theorem ofArguments_returns_missing :
    (ofArguments (fun _ => .error .missing) .lenient ["--config", "c.yaml"] none).Returns := by
  have hp : Options.parse ["--config", "c.yaml"] =
      .ok (.options { Options.initial with config := .given (.ofText "c.yaml") }) := rfl
  refine (ofArguments_returns hp).2 ?_
  rintro _ ⟨⟩ (hl | hu | ⟨-, hr, -⟩)
  · cases hl
  · obtain ⟨-, hr, hn⟩ | ⟨-, hr, -⟩ | ⟨hd, -⟩ := hu
    · cases hr
      obtain hn | hn := hn <;> cases hn
    · cases hr
    · cases hd
  · cases hr

/-- What has the form of a date is taken for one, and the calendar has no such day. -/
theorem not_returns_impossible_date :
    ∃ content, Utf8.encode? "home_server_url: 2001-99-99\n" = some content ∧
      (∃ o, Options.parse ["--config", "c.yaml"] = .ok (.options o)) ∧
      ¬(ofArguments (fun _ => .ok content) .lenient ["--config", "c.yaml"] none).Returns := by
  refine ⟨_, rfl, ⟨_, rfl⟩, ?_⟩
  rintro ⟨n, -, h⟩
  have hs : (ofArguments (fun _ => .ok (("home_server_url: 2001-99-99\n" : Text).flatMap
      Utf8.encodeOne)) .lenient ["--config", "c.yaml"] none).ending.status? = none := by
    decide +kernel
  rw [hs] at h
  cases h

end Run

end ConnectionProfile
