import ConnectionProfile.Proofs.Logged
import ConnectionProfile.Run

/-!
# Runs that succeed

A run that ends in success has printed its help, or it has printed the document of the profile that
its options make. `resolve_ok` says how that profile came about.
-/

namespace ConnectionProfile.Run

variable {read : Path → Except ReadProblem Octets} {console : Console} {o : Options}
  {token : Option Text}

-- ---------------------------------------------------------------------------
-- The output
-- ---------------------------------------------------------------------------

theorem document_ok {setting : Setting Path} {stored : List Entry} :
    (document read setting).result = .ok stored ↔
      match setting with
      | .given path => Stored.load read path = .ok stored
      | _ => stored = [] := by
  cases setting with
  | given path =>
    simp only [document, Logged.bind_result_ok, Logged.log_result_ok, Logged.ofExcept_ok,
      Except.mapError_ok, true_and, exists_const]
  | _ => exact Logged.pure_result_ok.trans eq_comm

theorem merged_ok {entries : List Entry} : (merged read o token).result = .ok entries ↔
    ∃ stored overrides, (document read o.config).result = .ok stored ∧
      o.overrides = .ok overrides ∧ overrides.apply token stored = entries := by
  simp only [merged, Logged.bind_result_ok, Logged.ofExcept_ok, Logged.pure_result_ok]
  constructor
  · rintro ⟨stored, hd, overrides, ho, he⟩
    exact ⟨stored, overrides, hd, ho, he⟩
  · rintro ⟨stored, overrides, hd, ho, he⟩
    exact ⟨stored, hd, overrides, ho, he⟩

theorem ofMerged_ok {entries : List Entry} {p : Profile} :
    (ofMerged entries).result = .ok p ↔ (Profile.decode (.map entries)).result = .ok p := by
  simp only [ofMerged, Logged.bind_result_ok, Logged.mapError_ok, Logged.log_result_ok,
    Logged.pure_result_ok, true_and, exists_const, exists_eq_right]

theorem resolve_ok {p : Profile} : (resolve read o token).result = .ok p ↔
    ∃ stored overrides, (document read o.config).result = .ok stored ∧
      o.overrides = .ok overrides ∧
      (Profile.decode (.map (overrides.apply token stored))).result = .ok p := by
  simp only [resolve, Logged.bind_result_ok, merged_ok, ofMerged_ok]
  constructor
  · rintro ⟨_, ⟨stored, overrides, hd, ho, rfl⟩, hp⟩
    exact ⟨stored, overrides, hd, ho, hp⟩
  · rintro ⟨stored, overrides, hd, ho, hp⟩
    exact ⟨_, ⟨stored, overrides, hd, ho, rfl⟩, hp⟩

theorem resolved_ok {t : Text} : (resolved read o token).result = .ok t ↔
    ∃ p, (resolve read o token).result = .ok p ∧ render p = .ok t := by
  simp only [resolved, Logged.bind_result_ok, Logged.ofExcept_ok]

theorem render_ok {p : Profile} {t : Text} :
    render p = .ok t ↔ ∃ u, p.toText layout = .ok u ∧ t = u ++ "\n" := by
  simp only [render, Except.bind_ok, Except.mapError_ok, eq_comm (a := t)]
  constructor
  · rintro ⟨u, hu, h⟩
    exact ⟨u, hu, Except.ok.inj h⟩
  · rintro ⟨u, hu, rfl⟩
    exact ⟨u, hu, rfl⟩

-- ---------------------------------------------------------------------------
-- The ending
-- ---------------------------------------------------------------------------

theorem shownWhile_plain (foreign : Option ForeignError) (r : Run) :
    r.shownWhile (shows console foreign .plain) = r := by
  have hd (rs : List Record) : rs.dropWhile (shows console foreign .plain) = [] := by
    induction rs with
    | nil => rfl
    | cons _ rs ih => exact ih
  rw [shownWhile, hd]

/-- The log cuts a run short or leaves it as it is. -/
theorem shownWhile_eq {shows : Record → Bool} {r : Run}
    (h : (r.shownWhile shows).ending ≠ .abort .badMarkup) : r.shownWhile shows = r := by
  unfold shownWhile at h ⊢
  split at h
  · rfl
  · exact absurd rfl h

theorem ofLogged_ok {x : Logged RunError Text} {t : Text} (h : x.result = .ok t) :
    ofLogged x = ⟨x.records, t, .success⟩ := by
  rw [ofLogged, h]

theorem ofLogged_success {x : Logged RunError Text} (h : (ofLogged x).ending = .success) :
    x.result = .ok (ofLogged x).output := by
  unfold ofLogged at h ⊢
  split at h
  · assumption
  · split at h <;> cases h

theorem ofOptions_success (h : (ofOptions read console o token).ending = .success) :
    (resolved read o token).result = .ok (ofOptions read console o token).output := by
  unfold ofOptions at h ⊢
  split at h
  · cases h
  · have hs := shownWhile_eq fun hb => nomatch h.symm.trans hb
    rw [hs] at h
    rw [hs]
    exact ofLogged_success h

/-- With plain records the log has no say in how a run ends. -/
theorem ofOptions_ok (console : Console) {level : Level} {t : Text}
    (hl : o.logLevel = some level) (hr : o.richLogs = false)
    (h : (resolved read o token).result = .ok t) :
    (ofOptions read console o token).ending = .success ∧
      (ofOptions read console o token).output = t := by
  have hs : o.logStyle = .plain := by rw [Options.logStyle, hr]; rfl
  simp only [ofOptions, hl, hs, shownWhile_plain, ofLogged_ok h, keeping, and_self]

/-- A run that ends in success printed the help or a profile. -/
theorem ofArguments_success {arguments : List Text}
    (h : (ofArguments read console arguments token).ending = .success) :
    (ofArguments read console arguments token).output = Options.help ∨
      ∃ o p, Options.parse arguments = .ok (.options o) ∧
        (resolve read o token).result = .ok p ∧
        render p = .ok (ofArguments read console arguments token).output := by
  unfold ofArguments at h ⊢
  split at h
  · cases h
  · exact .inl rfl
  · rename_i o ho
    obtain ⟨p, hp, ht⟩ := resolved_ok.1 (ofOptions_success h)
    exact .inr ⟨o, p, ho, hp, ht⟩

end ConnectionProfile.Run
