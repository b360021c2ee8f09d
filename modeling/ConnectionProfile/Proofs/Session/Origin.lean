import ConnectionProfile.Proofs.Profile.Addresses
import ConnectionProfile.Session

/-!
# Given addresses

A new profile stores the addresses that it was given, each without one final slash. Only an address
with such a slash is parsed, so a profile may store addresses that do not parse: exactly those that
did not parse as they were given.
-/

namespace ConnectionProfile

open Profile (Stores addressesIn stores_of_create stores_of_decode)

namespace Origin

/-- The home server and the identity server that are given; null where there is none. -/
def given : Origin → Option (Value × Value)
  | .addresses server identity _ _ => some (server, identity)
  | .document v => addressesIn v
  | .text v => (Profile.readJson v).result.toOption.bind addressesIn

/-- A new profile stores the addresses that it was given. -/
theorem stores_of_profile {o : Origin} {p : Profile} (h : o.profile.result = .ok p) :
    ∃ s i, o.given = some (.text s, .ofTextOption i) ∧ Stores p s i := by
  cases o with
  | addresses server identity c pins =>
    simp only [profile, Logged.bind_result_ok, Logged.mapError_ok] at h
    obtain ⟨_, -, _, -, hp⟩ := h
    obtain ⟨s, i, rfl, rfl, hstores⟩ := stores_of_create hp
    exact ⟨s, i, rfl, hstores⟩
  | document v => exact stores_of_decode (Logged.mapError_ok.1 h)
  | text v =>
    obtain ⟨w, hw, hp⟩ := Logged.bind_result_ok.1 (Logged.mapError_ok.1 h)
    obtain ⟨s, i, hg, hstores⟩ := stores_of_decode (Logged.mapError_ok.1 hp)
    exact ⟨s, i, by rw [given, hw]; exact hg, hstores⟩

end Origin

-- ---------------------------------------------------------------------------
-- Addresses that parse
-- ---------------------------------------------------------------------------

/-- Both stored addresses parse. -/
def Profile.AddressesParse (p : Profile) : Prop :=
  ∀ uri : Text, p.server = .text uri ∨ p.identity = .text uri → Uri.parses uri = true

theorem Profile.Stores.parse_iff {p : Profile} {s : Text} {i : Option Text} (h : Stores p s i) :
    p.AddressesParse ↔ ∀ uri ∈ s :: i.toList, Uri.parses uri = true := by
  have hidentity (uri : Text) :
      p.identity = .text uri ↔ ∃ j ∈ i, j.withoutFinal '/' = uri := by
    rw [h.identity]
    cases i <;> simp [Value.ofTextOption]
  simp only [Profile.AddressesParse, h.server, hidentity, List.forall_mem_cons,
    Option.mem_toList, Value.text.injEq]
  constructor
  · intro hp
    refine ⟨?_, fun j hj => ?_⟩
    · rw [← Uri.parses_withoutFinal]
      exact hp _ (.inl rfl)
    · rw [← Uri.parses_withoutFinal]
      exact hp _ (.inr ⟨j, hj, rfl⟩)
  · rintro ⟨hs, hi⟩ uri (rfl | ⟨j, hj, rfl⟩)
    · rw [Uri.parses_withoutFinal]
      exact hs
    · rw [Uri.parses_withoutFinal]
      exact hi j hj

namespace Origin

/-- The stored addresses of a new profile parse if and only if the given ones do. A given address
with a final slash always does. -/
theorem addressesParse_iff {o : Origin} {p : Profile} (h : o.profile.result = .ok p) :
    ∃ s i, o.given = some (.text s, .ofTextOption i) ∧
      (p.AddressesParse ↔ ∀ uri ∈ s :: i.toList, Uri.parses uri = true) ∧
      ∀ uri ∈ s :: i.toList, (∃ u, uri = u ++ Uri.slash) → Uri.parses uri = true := by
  obtain ⟨s, i, hg, hstores⟩ := stores_of_profile h
  refine ⟨s, i, hg, hstores.parse_iff, ?_⟩
  rintro _ huri ⟨u, rfl⟩
  rw [Uri.parses_append_slash]
  exact hstores.normal _ huri u rfl

theorem addressesParse_iff_two_slashes :
    ∃ p, (Origin.addresses (.text "http://[::1]/") (.text "ftp://b/") none []).profile.result =
      .ok p ∧ p.AddressesParse := by
  refine ⟨_, rfl, ?_⟩
  obtain ⟨s, i, hg, hiff, -⟩ :=
    addressesParse_iff (o := .addresses (.text "http://[::1]/") (.text "ftp://b/") none []) rfl
  obtain ⟨rfl, hi⟩ : "http://[::1]/" = s ∧ .text "ftp://b/" = Value.ofTextOption i := by
    simpa [given] using hg
  obtain ⟨j, rfl⟩ : ∃ j, i = some j := by
    cases i with
    | none => cases hi
    | some j => exact ⟨j, rfl⟩
  cases hi
  exact hiff.2 (by decide)

/-- Nobody looks at an address that has no final slash. -/
theorem not_addressesParse_open_bracket :
    ∃ p, (Origin.addresses (.text "http://[") .null none []).profile.result = .ok p ∧
      ¬p.AddressesParse := by
  refine ⟨_, rfl, fun h => ?_⟩
  exact absurd (h "http://[" (.inl rfl)) (by decide)

end Origin

end ConnectionProfile
