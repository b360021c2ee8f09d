import ConnectionProfile.Proofs.Json.Ascii
import ConnectionProfile.Proofs.Profile.Records
import ConnectionProfile.Proofs.Profile.TextCodec
import ConnectionProfile.Proofs.Run.Status

/-!
# Status, output and records

A run tells its outcome three times: by its status, by its output and by its records. `Prints` and
`Refuses` say what each of them is when a profile is resolved and when none is, and `Agrees` that a
run is the one or the other, as it should be.
-/

namespace ConnectionProfile

-- ---------------------------------------------------------------------------
-- Levels that can be asked for
-- ---------------------------------------------------------------------------

namespace Options

variable {o o' : Options}

/-- The run does not ask for a level above that of errors. -/
def KeepsErrors (o : Options) : Prop := o.logLevel ≠ some .critical

theorem KeepsErrors.assign {value : Text} {name : OptionName} (h : o.KeepsErrors)
    (ho : o.assign value name = .ok o') : o'.KeepsErrors := by
  unfold Options.assign at ho
  split at ho
  · cases ho
    cases name with
    | logLevel => exact nofun
    | _ => exact h
  · cases name with
    | logLevel =>
      rw [set] at ho
      split at ho
      · rename_i level hlevel
        cases ho
        have hm := List.mem_of_find?_eq_some hlevel
        rintro ⟨⟩
        exact absurd hm (by decide)
      · cases ho
    | pin =>
      rw [set] at ho
      split at ho
      · cases ho
        exact h
      · cases ho
    | _ =>
      cases ho
      exact h

theorem KeepsErrors.run {extras : List Text} {arguments : List Argument} (h : o.KeepsErrors)
    (ho : Options.run o extras arguments = .ok (.options o')) : o'.KeepsErrors := by
  fun_induction Options.run o extras arguments with
  | case1 =>
    cases ho
    exact h
  | case2 | case7 | case9 | case12 => cases ho
  | case3 _ _ _ _ ih | case4 _ _ _ ih | case5 _ _ _ _ ih | case10 _ _ _ ih => exact ih h ho
  | case6 =>
    obtain ⟨_, -, ⟨⟩⟩ := Except.bind_ok.1 ho
  | case8 _ _ _ _ _ _ ih | case11 _ _ _ _ _ _ _ ih =>
    obtain ⟨next, hn, ho⟩ := Except.bind_ok.1 ho
    exact ih next (h.assign hn) ho

theorem keepsErrors_of_parse {arguments : List Text} (h : parse arguments = .ok (.options o)) :
    o.KeepsErrors := by
  obtain ⟨_, -, hr⟩ := Except.bind_ok.1 h
  have hi : initial.KeepsErrors := nofun
  exact hi.run hr

end Options

namespace Run

variable {read : Path → Except ReadProblem Octets} {console : Console} {o : Options}
  {token : Option Text}

-- ---------------------------------------------------------------------------
-- Outcomes
-- ---------------------------------------------------------------------------

/-- The run prints the document of a profile, in ASCII and with its keys in order, and records no
error. -/
structure Prints (r : Run) (p : Profile) : Prop where
  status : r.ending.status? = some 0
  output : ∃ t, Session.encodeText p [(.text "indent", .int 2), (.text "sort_keys", .bool true)] =
    .ok t ∧ r.output = t ++ "\n"
  ascii : r.output.isAscii = true
  quiet : ∀ record ∈ r.records, record.level ≠ .error

/-- The run prints nothing. In its last record the tool tells of an error, and in no other. -/
structure Refuses (r : Run) : Prop where
  status : r.ending.status? = some 1
  output : r.output = []
  records : ∃ before last, r.records = before ++ [last] ∧ last.level = .error ∧
    last.source = .tool ∧ ∀ record ∈ before, record.level = .error → record.source ≠ .tool

/-- The run prints the profile that was resolved, and refuses when there is none. -/
structure Agrees (x : Logged RunError Profile) (r : Run) : Prop where
  prints : ∀ p, x.result = .ok p → r.Prints p
  refuses : ∀ e, x.result = .error e → r.Refuses

theorem Agrees.returns {x : Logged RunError Profile} {r : Run} (h : Agrees x r) : r.Returns := by
  cases hx : x.result with
  | ok p => exact ⟨0, by decide, (h.prints p hx).status⟩
  | error e => exact ⟨1, by decide, (h.refuses e hx).status⟩

-- ---------------------------------------------------------------------------
-- Records
-- ---------------------------------------------------------------------------

theorem isOrderly_document (setting : Setting Path) : (document read setting).IsOrderly := by
  cases setting with
  | given path =>
    exact (Logged.isOrderly_log (by decide) _ _).bind fun _ => Logged.isOrderly_ofExcept _
  | _ => exact Logged.isOrderly_pure _

theorem isOrderly_merged : (merged read o token).IsOrderly :=
  (isOrderly_document _).bind fun _ => (Logged.isOrderly_ofExcept _).bind fun _ =>
    Logged.isOrderly_pure _

theorem isOrderly_ofMerged (entries : List Entry) : (ofMerged entries).IsOrderly :=
  ((Profile.isOrderly_decode _).mapError _).bind fun _ =>
    (Logged.isOrderly_log (by decide) _ _).bind fun _ => Logged.isOrderly_pure _

theorem isOrderly_resolved : (resolved read o token).IsOrderly :=
  (isOrderly_merged.bind isOrderly_ofMerged).bind fun _ => Logged.isOrderly_ofExcept _

theorem keeps_error {level : Level} (h : level ≠ .critical) {record : Record}
    (hr : record.level = .error) : (Threshold.level level).keeps record = true := by
  rw [Threshold.keeps, hr]
  cases level with
  | critical => exact absurd rfl h
  | _ => rfl

/-- A failure is told of in one more record, whatever level is asked for. -/
theorem refuses_ofLogged {x : Logged RunError Text} (hx : x.IsOrderly) {e : RunError}
    (he : x.result = .error e) {message : Text} (hm : e.message? = some message) {level : Level}
    (hl : level ≠ .critical) : ((ofLogged x).keeping (.level level)).Refuses := by
  have hr : ofLogged x = ⟨x.records ++ [⟨.error, .tool, message⟩], [], .failure⟩ := by
    rw [ofLogged, he]
    simp only [hm]
  have hk : (Threshold.level level).keeps ⟨.error, .tool, message⟩ = true := keeps_error hl rfl
  rw [hr, keeping]
  refine ⟨rfl, rfl, x.records.filter (Threshold.level level).keeps, ⟨.error, .tool, message⟩, ?_,
    rfl, rfl, ?_⟩
  · simp only [List.filter_append, List.filter_cons, hk, if_true, List.filter_nil]
  · intro record hrecord
    exact hx.apart record (List.mem_filter.1 hrecord).1

-- ---------------------------------------------------------------------------
-- The output
-- ---------------------------------------------------------------------------

theorem isShown_printed (p : Profile) : Json.IsShown (printed p) :=
  (Json.isShown_write ⟨rfl, by rintro _ ⟨⟩; exact Json.isShown_of_all rfl,
    Json.isShown_of_all rfl, Json.isShown_of_all rfl⟩ _ _).append (Json.isShown_of_all rfl)

theorem isAscii_of_isShown {t : Text} (h : Json.IsShown t) : t.isAscii = true := by
  rw [Text.isAscii, List.all_eq_true]
  intro c hc
  rw [CodePoint.isAscii, decide_eq_true_eq]
  obtain hv | rfl := h c hc
  · exact Nat.lt_trans hv.2 (by decide)
  · decide

theorem prints_ofLogged {p : Profile} (hp : (resolve read o token).result = .ok p)
    (level : Level) : ((ofLogged (resolved read o token)).keeping (.level level)).Prints p := by
  have hrender := render_validated (resolve_validated hp)
  have hr := resolved_ok.2 ⟨p, hp, hrender⟩
  obtain ⟨t, ht, hprinted⟩ := render_ok.1 hrender
  rw [ofLogged_ok hr, keeping]
  refine ⟨rfl, ⟨t, ?_, hprinted⟩, isAscii_of_isShown (isShown_printed p), fun record hrecord => ?_⟩
  · have hl : Json.Layout.ofOptions [(.text "indent", .int 2), (.text "sort_keys", .bool true)] =
      .ok layout := rfl
    have hd := Profile.hasDocument_of_hasTextAddresses (isNew_of_resolve hp).hasTextAddresses
    rw [Profile.encodeText_of_ofOptions hd hl, ht]
    rfl
  · exact isOrderly_resolved.quiet _ hr record (List.mem_filter.1 hrecord).1

-- ---------------------------------------------------------------------------
-- Agreement
-- ---------------------------------------------------------------------------

theorem agrees_of_level {level : Level} (hl : level ≠ .critical)
    (hload : ∀ e, (document read o.config).result = .error e → e.message? ≠ none)
    (hpins : ∀ stored, (document read o.config).result = .ok stored → ∀ pins ∈ o.pins, none ∉ pins) :
    Agrees (resolve read o token) ((ofLogged (resolved read o token)).keeping (.level level)) where
  prints p hp := prints_ofLogged hp level
  refuses e he := by
    have hm : e.message? ≠ none := by
      obtain hd | ⟨stored, hd, ho | ⟨_, -, _, hcause, rfl⟩⟩ := resolve_error.1 he
      · exact hload e hd
      · obtain ⟨⟨pins, hp, hb⟩, -⟩ := Options.overrides_error.1 ho
        exact absurd hb (hpins stored hd pins hp)
      · exact message?_of_decode hcause
    obtain ⟨message, hm⟩ := Option.ne_none_iff_exists'.1 hm
    exact refuses_ofLogged isOrderly_resolved (resolved_error.2 he) hm hl

/-- For a document that can be loaded, or cannot for a reason that is told, and for handlers that
show every record: status, output and records agree if and only if the level was not left blank, and
no pin was in case the document could be loaded. -/
theorem agrees_iff {arguments : List Text} (h : Options.parse arguments = .ok (.options o))
    (hload : ∀ e, (document read o.config).result = .error e → e.message? ≠ none)
    (hshow : (ofArguments read console arguments token).ending ≠ .abort .badMarkup) :
    Agrees (resolve read o token) (ofArguments read console arguments token) ↔
      o.logLevel ≠ none ∧ ∀ stored, (document read o.config).result = .ok stored →
        ∀ pins ∈ o.pins, none ∉ pins := by
  have hr : ofArguments read console arguments token = ofOptions read console o token := by
    rw [ofArguments, h]
  rw [hr] at hshow ⊢
  constructor
  · intro ha
    have hescapes := ofOptions_returns.1 ha.returns
    refine ⟨fun hl => hescapes (.blankLevel hl), fun stored hd pins hp hb => ?_⟩
    exact hescapes (.atOnce (.blankPin hd hp hb))
  · rintro ⟨hl, hpins⟩
    obtain ⟨level, hlevel⟩ := Option.ne_none_iff_exists'.1 hl
    have hcritical : level ≠ .critical := by
      rintro rfl
      exact Options.keepsErrors_of_parse h hlevel
    simp only [ofOptions, hlevel] at hshow ⊢
    rw [shownWhile_eq hshow]
    exact agrees_of_level hcritical hload hpins

theorem agrees_iff_missing :
    ∃ o, Options.parse ["--config=c.yaml", "--log-level=ERROR", "--pin=a=b"] = .ok (.options o) ∧
      Agrees (resolve (fun _ => .error .missing) o none)
        (ofArguments (fun _ => .error .missing) .lenient
          ["--config=c.yaml", "--log-level=ERROR", "--pin=a=b"] none) := by
  have hp : Options.parse ["--config=c.yaml", "--log-level=ERROR", "--pin=a=b"] =
      .ok (.options { Options.initial with
        config := .given (.ofText "c.yaml"), logLevel := some .error
        pins := some [some ⟨"a", "b"⟩] }) := rfl
  refine ⟨_, hp, (agrees_iff hp ?_ ?_).2 ⟨nofun, ?_⟩⟩
  · rintro _ ⟨⟩
    exact nofun
  · exact nofun
  · rintro _ ⟨⟩

/-- Two hyphens in the place of a level or of a pin end the run, and no record tells of it. -/
theorem not_agrees_blank :
    (∃ o p, Options.parse ["--log-level=--", "--home-server-url=http://a"] = .ok (.options o) ∧
      (resolve (fun _ => .error .missing) o none).result = .ok p ∧
      ¬Agrees (resolve (fun _ => .error .missing) o none)
        (ofArguments (fun _ => .error .missing) .lenient
          ["--log-level=--", "--home-server-url=http://a"] none)) ∧
    ∃ o, Options.parse ["--pin=--", "--home-server-url=http://a"] = .ok (.options o) ∧
      ¬Agrees (resolve (fun _ => .error .missing) o none)
        (ofArguments (fun _ => .error .missing) .lenient
          ["--pin=--", "--home-server-url=http://a"] none) := by
  refine ⟨⟨_, _, rfl, rfl, fun h => ?_⟩, _, rfl, fun h => ?_⟩
  · obtain ⟨_, -, hn⟩ := h.returns
    cases hn
  · obtain ⟨_, -, hn⟩ := h.returns
    cases hn

end Run

end ConnectionProfile
