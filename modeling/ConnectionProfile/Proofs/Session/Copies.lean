import ConnectionProfile.Proofs.Profile.Decoding
import ConnectionProfile.Proofs.Session.Effect

/-!
# Copies

There are two ways to copy a profile of a session: to make a new one of its parts, and to decode its
document. Both go through the same checks in the end, so they come to the same profile with the same
records, or to the same error.
-/

namespace ConnectionProfile

namespace Session

variable {s : Session} {i : Nat} {h : Holder} {p : Profile}

theorem step_eq_perform (hi : s.holders[i]? = some h) (step : Step) :
    s.step i step = perform i h step s := by
  have hh : holder i s = (s, pure h) := by
    rw [holder, Action.session_bind, hi]
    rfl
  change Action.bind (holder i) _ s = _
  simp only [Action.bind, hh]
  rfl

theorem step_fork (hi : s.holders[i]? = some h) :
    let x := (copy (s.view h)).mapError .invalidProfile
    s.step i .fork =
      (Action.changed x (fun q => (·.addSharing h.credentials q)) s, x.map fun _ => .done) := by
  rw [step_eq_perform hi, perform, Action.session_bind]
  exact Action.lift_change_pure _ (fun q => (·.addSharing h.credentials q)) _ s

theorem step_reload (hi : s.holders[i]? = some h) (hd : (s.view h).hasDocument = true) :
    let x := (Profile.decode (s.view h).toDocument).mapError .document
    s.step i .reload = (Action.changed x (fun q => (·.replace i q)) s, x.map fun _ => .done) := by
  rw [step_eq_perform hi, perform, Action.session_bind, encode_ok.2 ⟨hd, rfl⟩,
    Action.ofExcept_ok_bind]
  exact Action.lift_change_pure _ (fun q => (·.replace i q)) _ s

theorem profile?_addSharing (s : Session) {q : Profile} (hq : q.credentials = s.credentialsOf h) :
    (s.addSharing h.credentials q).profile? s.holders.length = some q := by
  obtain ⟨server, identity, credentials, pins⟩ := q
  obtain rfl : credentials = s.credentialsOf h := hq
  simp [profile?, addSharing, view, pinsOf, pinsAt, credentialsOf]

theorem profile?_replace (hi : i < s.holders.length) (q : Profile) :
    (s.replace i q).profile? i = some q := by
  obtain ⟨server, identity, credentials, pins⟩ := q
  cases credentials <;>
    simp [profile?, replace, allocate, setHolder, view, pinsOf, pinsAt, credentialsOf, hi]

theorem decode_toDocument_eq_copy {u v : Text} (hs : p.server = .text u)
    (hi : p.effectiveIdentity = .text v) (hc : p.HasValidatedCredentials) :
    Profile.decode p.toDocument = (copy p).mapError .invalid := by
  rw [Profile.decode_toDocument hs hi hc, copy, hs, hi]

theorem credentials_of_copy {q : Profile} (h : (copy p).result = .ok q) :
    q.credentials = p.credentials := by
  obtain ⟨_, _, -, -, -, -, -, rfl⟩ := Profile.create_ok.1 h
  rfl

/-- A fork and a reload of a profile that holds texts and validated credentials make the same records.
Either both succeed, and the profile that the fork adds is the one that the reload puts in the place of
the old one, or both refuse it for the same cause. -/
theorem fork_agrees_with_reload (s : Session) {i : Nat} {p : Profile} (hp : s.profile? i = some p)
    (hs : ∃ u, p.server = .text u) (hi : ∃ v, p.effectiveIdentity = .text v)
    (hc : p.HasValidatedCredentials) :
    (s.step i .fork).2.records = (s.step i .reload).2.records ∧
    ((∃ q, (s.step i .fork).2.result = .ok .done ∧ (s.step i .reload).2.result = .ok .done ∧
        (s.step i .fork).1.profile? s.holders.length = some q ∧
        (s.step i .reload).1.profile? i = some q) ∨
      ∃ cause, (s.step i .fork).2.result = .error (.invalidProfile cause) ∧
        (s.step i .reload).2.result = .error (.document (.invalid cause))) := by
  obtain ⟨h, hh, rfl⟩ := Option.map_eq_some_iff.1 hp
  obtain ⟨u, hs⟩ := hs
  obtain ⟨v, hi⟩ := hi
  have hd : (s.view h).hasDocument = true := by
    rw [Profile.hasDocument, hs, hi]
    rfl
  rw [step_fork hh, step_reload hh hd, decode_toDocument_eq_copy hs hi hc]
  refine ⟨rfl, ?_⟩
  have hq (q : Profile) (h' : (copy (s.view h)).result = .ok q) : q.credentials = s.credentialsOf h :=
    credentials_of_copy h'
  have hlt : i < s.holders.length := (List.getElem?_eq_some_iff.1 hh).1
  generalize copy (s.view h) = x at hq
  obtain ⟨records, result⟩ := x
  cases result with
  | error cause => exact .inr ⟨cause, rfl, rfl⟩
  | ok q =>
    exact .inl ⟨q, rfl, rfl, profile?_addSharing s (hq q rfl), profile?_replace hlt q⟩

theorem fork_agrees_with_reload_slashes :
    let s := (start ⟨.text "http://a", .null, some (.ofTexts "u" "h" "t" none (some "r")), []⟩
      []).run [(0, .setServer (.text "http://b//")), (0, .setIdentity (.text "ftp://c"))]
    (s.step 0 .fork).2.records = [⟨.debug, .profile,
        "Removed trailing slash from home server URI http://b//"⟩] ∧
      (s.step 0 .reload).2.records = (s.step 0 .fork).2.records ∧
      ∃ q, (s.step 0 .fork).1.profile? 1 = some q ∧ (s.step 0 .reload).1.profile? 0 = some q := by
  intro s
  have hc : Profile.HasValidatedCredentials ⟨.text "http://b//", .text "ftp://c",
      some (.ofTexts "u" "h" "t" none (some "r")), []⟩ := by
    rintro _ ⟨⟩
    exact ⟨_, _, _, _, _, rfl⟩
  obtain ⟨hr, hq⟩ := fork_agrees_with_reload s (i := 0) rfl ⟨_, rfl⟩ ⟨_, rfl⟩ hc
  refine ⟨by decide +kernel, hr.symm, ?_⟩
  obtain ⟨q, -, -, hf, hl⟩ | ⟨cause, he, -⟩ := hq
  · exact ⟨q, hf, hl⟩
  · cases he

end Session

end ConnectionProfile
