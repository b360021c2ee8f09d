import ConnectionProfile.Proofs.Profile.Document
import ConnectionProfile.Proofs.Profile.Reload
import ConnectionProfile.Proofs.Text.Wide

/-!
# Profiles in halves

Some readers leave the two surrogates of a code point apart. A profile with such halves in its texts
can be reloaded like the one with the code points whole.
-/

namespace ConnectionProfile

theorem Uri.hasSupportedScheme_halves {uri : Text} (h : hasSupportedScheme (.text uri) = true) :
    hasSupportedScheme (.text (Wide.halves uri)) = true := by
  simp only [hasSupportedScheme] at h ⊢
  cases hc : uri.cut? ':' with
  | none =>
    rw [hc] at h
    cases h
  | some parts =>
    obtain ⟨scheme, rest⟩ := parts
    rw [hc] at h
    obtain ⟨rfl, hn⟩ := Text.cut?_eq_some.1 hc
    have ha : scheme.isAscii = true := by
      have hs : scheme = "http" ∨ scheme = "https" := by simpa [supportedSchemes] using h
      obtain rfl | rfl := hs <;> rfl
    have hw : Wide.halves (scheme ++ (':' : CodePoint) :: rest) =
        scheme ++ (':' : CodePoint) :: Wide.halves rest := by
      rw [Wide.halves_append, Wide.halves_of_isAscii ha, Wide.halves_cons,
        Wide.halvesOf_of_lt (by decide)]
      rfl
    rw [hw, Text.cut?_eq_some.2 ⟨rfl, hn⟩]
    exact h

theorem Uri.halves_ne_append_slash {uri : Text} (h : ∀ u, uri ≠ u ++ slash) :
    ∀ u, Wide.halves uri ≠ u ++ slash := by
  intro u hu
  obtain ⟨v, hv⟩ := Wide.exists_of_halves_eq_append (by decide) hu
  exact h v hv

namespace Profile

theorem IsNew.hasTextAddresses {p : Profile} (h : p.IsNew) : p.HasTextAddresses := by
  obtain ⟨_, _, _, _, h, -⟩ := h.create_ok
  obtain ⟨s, i, -, -, -, -, -, rfl⟩ := Profile.create_ok.1 h
  refine ⟨⟨_, rfl⟩, ?_⟩
  cases i with
  | none => exact .inl rfl
  | some i => exact .inr ⟨_, rfl⟩

/-- Halves can be reloaded, since addresses without a final slash are not parsed again. -/
theorem Reloadable.mapTexts_halves {p : Profile} {s i : Text} (h : Reloadable p s i)
    (hs : ∀ u, s ≠ u ++ Uri.slash) (hi : ∀ u, i ≠ u ++ Uri.slash) :
    Reloadable (p.mapTexts Wide.halves) (Wide.halves s) (Wide.halves i) where
  server := by
    rw [mapTexts, h.server]
    rfl
  identity := by
    rw [effectiveIdentity_mapTexts, h.identity]
    rfl
  credentials := h.credentials.mapTexts _
  scheme := Uri.hasSupportedScheme_halves h.scheme
  serverParses := .of_not_final (Uri.halves_ne_append_slash hs)
  identityParses := .of_not_final (Uri.halves_ne_append_slash hi)

end Profile

end ConnectionProfile
