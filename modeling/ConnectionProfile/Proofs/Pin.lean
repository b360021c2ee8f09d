import ConnectionProfile.Pin

/-!
# Pins on a command line

A pin is written as its host name, an equals sign and its hash. `ofArgument_inverts_toArgument` says
that a text is taken for a pin just when it is a pin that is written so, and then for that pin: the
host name ends at the first equals sign, and the hash keeps all others.
-/

namespace ConnectionProfile.Pin

variable {t : Text} {p : Pin}

def toArgument (p : Pin) : Text := p.hostname ++ "=" ++ p.publicKeyHash

/-- Neither part is empty, and the host name does not end early. -/
structure IsWritable (p : Pin) : Prop where
  hostname : p.hostname ≠ []
  noSign : ('=' : CodePoint) ∉ p.hostname
  hash : p.publicKeyHash ≠ []

theorem cut?_toArgument : t.cut? '=' = some (p.hostname, p.publicKeyHash) ↔
    p.toArgument = t ∧ ('=' : CodePoint) ∉ p.hostname := by
  rw [Text.cut?_eq_some, eq_comm]
  simp only [toArgument, List.append_assoc]
  rfl

theorem ofArgument?_eq_some : ofArgument? t = some p ↔ p.IsWritable ∧ p.toArgument = t := by
  unfold ofArgument?
  constructor
  · intro h
    split at h
    · rename_i hostname hash hc
      split at h
      · cases h
      · rename_i hn
        cases h
        obtain ⟨ht, hs⟩ := cut?_toArgument (p := ⟨hostname, hash⟩).1 hc
        exact ⟨⟨fun h => hn (.inl h), hs, fun h => hn (.inr h)⟩, ht⟩
    · cases h
  · rintro ⟨⟨hh, hs, hk⟩, ht⟩
    rw [cut?_toArgument.2 ⟨ht, hs⟩]
    exact if_neg (not_or.2 ⟨hh, hk⟩)

theorem ofArgument_ok_iff_some : ofArgument t = .ok p ↔ ofArgument? t = some p := by
  rw [ofArgument]
  cases ofArgument? t <;> simp

theorem ofArgument_ok : ofArgument t = .ok p ↔ p.IsWritable ∧ p.toArgument = t :=
  ofArgument_ok_iff_some.trans ofArgument?_eq_some

theorem ofArgument_error (h : ∀ p, ofArgument t ≠ .ok p) : ofArgument t = .error ⟨t⟩ := by
  unfold ofArgument at h ⊢
  split
  · rename_i p hp
    rw [hp] at h
    exact absurd rfl (h p)
  · rfl

/-- Reading an argument undoes the writing of a pin, and no other text is read. Surrogates make no
difference: the parts of a pin may be any texts. -/
theorem ofArgument_inverts_toArgument (t : Text) :
    ((∃ p, ofArgument t = .ok p) ↔ ∃ before after, t = before ++ "=" ++ after ∧
      ('=' : CodePoint) ∉ before ∧ before ≠ [] ∧ after ≠ []) ∧
    (∀ p, ofArgument t = .ok p →
      p.hostname ++ "=" ++ p.publicKeyHash = t ∧ ('=' : CodePoint) ∉ p.hostname) ∧
    (∀ p : Pin, p.hostname ≠ [] → ('=' : CodePoint) ∉ p.hostname → p.publicKeyHash ≠ [] →
      ofArgument (p.hostname ++ "=" ++ p.publicKeyHash) = .ok p) ∧
    ((∀ p, ofArgument t ≠ .ok p) → ofArgument t = .error ⟨t⟩) := by
  refine ⟨?_, ?_, ?_, ofArgument_error⟩
  · simp only [ofArgument_ok]
    constructor
    · rintro ⟨p, hp, rfl⟩
      exact ⟨p.hostname, p.publicKeyHash, rfl, hp.noSign, hp.hostname, hp.hash⟩
    · rintro ⟨before, after, rfl, hs, hb, ha⟩
      exact ⟨⟨before, after⟩, ⟨hb, hs, ha⟩, rfl⟩
  · intro p h
    obtain ⟨hp, rfl⟩ := ofArgument_ok.1 h
    exact ⟨rfl, hp.noSign⟩
  · intro p hh hs hk
    exact ofArgument_ok.2 ⟨⟨hh, hs, hk⟩, rfl⟩

/-- A hash may end in equals signs, but it may not be empty. -/
theorem ofArgument_inverts_toArgument_padding :
    ofArgument "a.com=sha256/abc==" = .ok ⟨"a.com", "sha256/abc=="⟩ ∧
      ofArgument "a.com=" = .error ⟨"a.com="⟩ := by
  obtain ⟨-, -, hw, -⟩ := ofArgument_inverts_toArgument "a.com=sha256/abc=="
  obtain ⟨-, -, -, he⟩ := ofArgument_inverts_toArgument "a.com="
  exact ⟨hw ⟨"a.com", "sha256/abc=="⟩ (by decide) (by decide) (by decide), he fun p h => nomatch h⟩

/-- A surrogate is a code point like others. -/
theorem not_refuses_surrogates :
    ¬∀ t : Text, t.isUnicode = false → ∀ p, ofArgument t ≠ .ok p :=
  fun h => h (0xD800 :: "=h") rfl ⟨[0xD800], "h"⟩ rfl

end ConnectionProfile.Pin
