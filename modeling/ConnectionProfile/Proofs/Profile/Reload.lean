import ConnectionProfile.Proofs.Profile.Decoding

/-!
# Reloading profiles

A profile is reloaded when it is made anew from its own document. Each reload brings both addresses
to their normal form once more, so each takes one final slash away. `Reloadable` is what the first
reload asks for and every reload keeps: once one has succeeded all others do, and they change
nothing any more when the slashes are used up.
-/

namespace ConnectionProfile.Profile

def reload (p : Profile) : Logged Error Profile := decode p.toDocument

/-- So many reloads, one after the other. -/
def reloads : Nat → Profile → Except Error Profile
  | 0, p => .ok p
  | n + 1, p => do reloads n (← (reload p).result)

def withAddresses (p : Profile) (s i : Text) : Profile :=
  ⟨.text s, .text i, p.credentials, p.pins⟩

/-- Both show the same through their properties. One may have an identity server of its own where
the other has its home server for it. -/
def Equivalent (p q : Profile) : Prop :=
  p.server = q.server ∧ p.effectiveIdentity = q.effectiveIdentity ∧
    p.credentials = q.credentials ∧ p.pins = q.pins

theorem Equivalent.toDocument {p q : Profile} (h : p.Equivalent q) :
    p.toDocument = q.toDocument := by
  obtain ⟨hs, hi, hc, hp⟩ := h
  simp only [Profile.toDocument, toEntries, hs, hi, hc, hp]

@[simp] theorem effectiveIdentity_withAddresses (p : Profile) (s i : Text) :
    (p.withAddresses s i).effectiveIdentity = .text i := rfl

theorem equivalent_withAddresses {p : Profile} {s i t j : Text} (hs : p.server = .text s)
    (hi : p.effectiveIdentity = .text i) :
    (p.withAddresses t j).Equivalent p ↔ t = s ∧ j = i := by
  simp only [Equivalent, effectiveIdentity_withAddresses, hs, hi]
  simp [withAddresses]

-- ---------------------------------------------------------------------------
-- One reload
-- ---------------------------------------------------------------------------

section
variable {p q : Profile} {s i : Text}

theorem reload_ok (hs : p.server = .text s) (hi : p.effectiveIdentity = .text i)
    (hc : p.HasValidatedCredentials) :
    (reload p).result = .ok q ↔
      (Uri.hasSupportedScheme p.server = true ∧ Uri.CanNormalize s ∧ Uri.CanNormalize i) ∧
        q = p.withAddresses (s.withoutFinal '/') (i.withoutFinal '/') := by
  rw [reload, decode_toDocument hs hi hc, Logged.mapError_ok, create_ok, hs]
  constructor
  · rintro ⟨t, j, ht, hj, h, hn, hm, rfl⟩
    cases ht
    cases j with
    | none => cases hj
    | some j =>
      cases hj
      exact ⟨⟨h, hn, hm i rfl⟩, rfl⟩
  · rintro ⟨⟨h, hn, hm⟩, rfl⟩
    refine ⟨s, some i, rfl, rfl, h, hn, ?_, rfl⟩
    rintro _ ⟨⟩
    exact hm

/-- What a reload asks of a profile with the addresses `s` and `i`. -/
structure Reloadable (p : Profile) (s i : Text) : Prop where
  server : p.server = .text s
  identity : p.effectiveIdentity = .text i
  credentials : p.HasValidatedCredentials
  scheme : Uri.hasSupportedScheme (.text s) = true
  serverParses : Uri.CanNormalize s
  identityParses : Uri.CanNormalize i

theorem Reloadable.reload (h : Reloadable p s i) :
    (reload p).result = .ok (p.withAddresses (s.withoutFinal '/') (i.withoutFinal '/')) :=
  (reload_ok h.server h.identity h.credentials).2
    ⟨⟨h.server ▸ h.scheme, h.serverParses, h.identityParses⟩, rfl⟩

theorem Reloadable.withAddresses (h : Reloadable p s i) :
    Reloadable (p.withAddresses (s.withoutFinal '/') (i.withoutFinal '/'))
      (s.withoutFinal '/') (i.withoutFinal '/') where
  server := rfl
  identity := rfl
  credentials := h.credentials
  scheme := (Uri.hasSupportedScheme_withoutFinal s).trans h.scheme
  serverParses := h.serverParses.withoutFinal
  identityParses := h.identityParses.withoutFinal

-- ---------------------------------------------------------------------------
-- Many reloads
-- ---------------------------------------------------------------------------

theorem Reloadable.withoutFinals (h : Reloadable p s i) (n : Nat) :
    Reloadable (p.withAddresses (s.withoutFinals '/' n) (i.withoutFinals '/' n))
      (s.withoutFinals '/' n) (i.withoutFinals '/' n) := by
  induction n generalizing p s i with
  | zero => exact ⟨rfl, rfl, h.credentials, h.scheme, h.serverParses, h.identityParses⟩
  | succ n ih =>
    have hn := ih h.withAddresses
    exact hn

theorem Reloadable.reloads (h : Reloadable p s i) (n : Nat) :
    reloads (n + 1) p =
      .ok (p.withAddresses (s.withoutFinals '/' (n + 1)) (i.withoutFinals '/' (n + 1))) := by
  induction n generalizing p s i with
  | zero =>
    rw [Profile.reloads, h.reload]
    rfl
  | succ n ih =>
    rw [Profile.reloads, h.reload]
    exact ih h.withAddresses

/-- Once the slashes are used up a reload changes nothing. -/
theorem Reloadable.reload_withoutFinals (h : Reloadable p s i) {n : Nat}
    (hs : s.finalCount '/' ≤ n) (hi : i.finalCount '/' ≤ n) :
    (Profile.reload (p.withAddresses (s.withoutFinals '/' n) (i.withoutFinals '/' n))).result =
      .ok (p.withAddresses (s.withoutFinals '/' n) (i.withoutFinals '/' n)) := by
  rw [(h.withoutFinals n).reload, Text.withoutFinal_withoutFinals hs,
    Text.withoutFinal_withoutFinals hi]
  rfl

end

/-- A reload succeeds if and only if the scheme is supported and both addresses parse without their
final slashes. Then each address has lost one, and the identity server is explicit. All further
reloads succeed, and so many reloads as either address has final slashes, with one at least to make
the identity server explicit, lead to a profile that no reload changes. -/
theorem reload_converges {p : Profile} {s i : Text} (hs : p.server = .text s)
    (hi : p.effectiveIdentity = .text i) (hc : p.HasValidatedCredentials) :
    ((∃ q, (reload p).result = .ok q) ↔
      Uri.hasSupportedScheme p.server = true ∧ Uri.CanNormalize s ∧ Uri.CanNormalize i) ∧
    ∀ q, (reload p).result = .ok q →
      q = ⟨.text (s.withoutFinal '/'), .text (i.withoutFinal '/'), p.credentials, p.pins⟩ ∧
      (max (s.finalCount '/') (i.finalCount '/') = 0 → q.Equivalent p) ∧
      ∀ n, ∃ r, reloads n q = .ok r ∧
        r = ⟨.text (s.withoutFinals '/' (n + 1)), .text (i.withoutFinals '/' (n + 1)),
          p.credentials, p.pins⟩ ∧
        (max (s.finalCount '/') (i.finalCount '/') ≤ n + 1 → (reload r).result = .ok r) := by
  simp only [reload_ok hs hi hc]
  refine ⟨⟨fun ⟨_, h, _⟩ => h, fun h => ⟨_, h, rfl⟩⟩, ?_⟩
  rintro q ⟨⟨hscheme, hn, hm⟩, rfl⟩
  have h : Reloadable p s i := ⟨hs, hi, hc, hs ▸ hscheme, hn, hm⟩
  refine ⟨rfl, ?_, ?_⟩
  · intro h0
    rw [Nat.max_eq_zero_iff, Text.finalCount_eq_zero, Text.finalCount_eq_zero] at h0
    rw [equivalent_withAddresses hs hi]
    exact ⟨Text.withoutFinal_of_ne h0.1, Text.withoutFinal_of_ne h0.2⟩
  · intro n
    refine ⟨_, ?_, rfl, ?_⟩
    · have hr := h.reloads n
      rwa [Profile.reloads, h.reload] at hr
    · intro hmax
      exact h.reload_withoutFinals (by omega) (by omega)

/-- A reload of a profile that was set to addresses with final slashes, and one more. -/
theorem reload_converges_two_slashes :
    ∃ q r, (reload ⟨.text "http://a//", .text "ftp:///",
        some (.ofTexts "u" "h" "t" none "r"), [⟨"h", "k"⟩, ⟨"h", "k"⟩]⟩).result = .ok q ∧
      reloads 2 q = .ok r ∧ (reload r).result = .ok r := by
  obtain ⟨hiff, h⟩ := reload_converges (s := "http://a//") (i := "ftp:///")
    (p := ⟨.text "http://a//", .text "ftp:///", some (.ofTexts "u" "h" "t" none "r"),
      [⟨"h", "k"⟩, ⟨"h", "k"⟩]⟩) rfl rfl
    (by rintro _ ⟨⟩; exact ⟨_, _, _, _, _, rfl⟩)
  obtain ⟨q, hq⟩ := hiff.2 (by decide)
  obtain ⟨-, -, hn⟩ := h q hq
  obtain ⟨r, hr, -, hfixed⟩ := hn 2
  exact ⟨q, r, hq, hr, hfixed (by decide)⟩

-- ---------------------------------------------------------------------------
-- New profiles
-- ---------------------------------------------------------------------------

/-- A profile as it is made from addresses, from a document or from a text. -/
inductive IsNew : Profile → Prop
  | created {server identity : Value} {c : Option Credentials} {pins : List Pin} {p : Profile}
      (hc : ∀ d, c = some d → d.IsValidated) :
      (create server identity c pins).result = .ok p → IsNew p
  | decoded {v : Value} {p : Profile} : (decode v).result = .ok p → IsNew p
  | read {v : Value} {p : Profile} : (ofText v).result = .ok p → IsNew p

/-- A reload gives back what the profile shows, and so its document. -/
def ReloadsLosslessly (p : Profile) : Prop :=
  ∃ q, (reload p).result = .ok q ∧ q.Equivalent p ∧ q.toDocument = p.toDocument

theorem IsNew.create_ok {p : Profile} (h : p.IsNew) :
    ∃ server identity c pins, (create server identity c pins).result = .ok p ∧
      ∀ d, c = some d → d.IsValidated := by
  cases h with
  | created hc h => exact ⟨_, _, _, _, h, hc⟩
  | decoded h => exact decode_ok h
  | read h =>
    obtain ⟨_, h⟩ := ofText_ok h
    exact decode_ok h

theorem IsNew.reloadable {p : Profile} (h : p.IsNew) : ∃ s i, Reloadable p s i := by
  obtain ⟨_, _, c, _, h, hc⟩ := h.create_ok
  obtain ⟨s, i, rfl, rfl, hscheme, hs, hi, rfl⟩ := Profile.create_ok.1 h
  have hscheme := (Uri.hasSupportedScheme_withoutFinal s).trans hscheme
  cases i with
  | none => exact ⟨_, _, rfl, rfl, hc, hscheme, hs.withoutFinal, hs.withoutFinal⟩
  | some i => exact ⟨_, _, rfl, rfl, hc, hscheme, hs.withoutFinal, (hi i rfl).withoutFinal⟩

theorem Reloadable.lossless_iff {p : Profile} {s i : Text} (h : Reloadable p s i) :
    p.ReloadsLosslessly ↔ (∀ u, s ≠ u ++ Uri.slash) ∧ ∀ u, i ≠ u ++ Uri.slash := by
  have he := @equivalent_withAddresses p s i (s.withoutFinal '/') (i.withoutFinal '/')
    h.server h.identity
  rw [Text.withoutFinal_eq_self, Text.withoutFinal_eq_self] at he
  rw [← he]
  constructor
  · rintro ⟨q, hq, hp, -⟩
    rw [h.reload] at hq
    cases hq
    exact hp
  · intro hp
    exact ⟨_, h.reload, hp, hp.toDocument⟩

/-- Every new profile can be reloaded, and a reload keeps its credentials and its pins. It gives
back the addresses as well if and only if neither of them still ends in a slash. -/
theorem IsNew.reloadsLosslessly_iff {p : Profile} (h : p.IsNew) :
    ∃ s i, p.server = .text s ∧ p.effectiveIdentity = .text i ∧
      (reload p).result =
        .ok ⟨.text (s.withoutFinal '/'), .text (i.withoutFinal '/'), p.credentials, p.pins⟩ ∧
      (p.ReloadsLosslessly ↔ (∀ u, s ≠ u ++ Uri.slash) ∧ ∀ u, i ≠ u ++ Uri.slash) := by
  obtain ⟨s, i, hr⟩ := h.reloadable
  exact ⟨s, i, hr.server, hr.identity, hr.reload, hr.lossless_iff⟩

theorem reloadsLosslessly_iff_one_slash :
    ∃ p : Profile, p.IsNew ∧ p.server = .text "https://a" ∧ p.ReloadsLosslessly := by
  have hc : (create (.text "https://a/") (.text "ftp://b/")
      (some (.ofTexts "u" "h" "t" "d" none)) [⟨"h", "k"⟩]).result =
        .ok ⟨.text "https://a", .text "ftp://b", some (.ofTexts "u" "h" "t" "d" none),
          [⟨"h", "k"⟩]⟩ := rfl
  have h := IsNew.created (by rintro _ ⟨⟩; exact ⟨_, _, _, _, _, rfl⟩) hc
  refine ⟨_, h, rfl, ?_⟩
  obtain ⟨s, i, hs, hi, -, hiff⟩ := h.reloadsLosslessly_iff
  cases hs
  cases hi
  exact hiff.2 (by simp only [← Text.finalCount_eq_zero]; decide)

/-- Of two final slashes one is left when the profile is made, and a reload takes it away. -/
theorem not_reloadsLosslessly_two_slashes :
    ∃ p : Profile, (create (.text "http://a//") .null none []).result = .ok p ∧
      ¬p.ReloadsLosslessly := by
  refine ⟨⟨.text "http://a/", .null, none, []⟩, rfl, ?_⟩
  rintro ⟨q, hq, ⟨hs, -⟩, -⟩
  have hr : (reload ⟨.text "http://a/", .null, none, []⟩).result =
      .ok ⟨.text "http://a", .text "http://a", none, []⟩ := rfl
  rw [hr] at hq
  cases hq
  exact absurd (Value.text.inj hs) (by decide)

end ConnectionProfile.Profile
