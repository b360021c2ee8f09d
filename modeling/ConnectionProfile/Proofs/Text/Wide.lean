import ConnectionProfile.Text.Wide

/-!
# Surrogate pairs

A code point beyond sixteen bits is the pair of its two units. `halves` writes each such code point
as its pair, and joining the pairs of a text leaves a text alone that has none.
-/

namespace ConnectionProfile

theorem CodePoint.between_iff {least most : Nat} {c : CodePoint} :
    c.between least most = true ↔ least ≤ c.val ∧ c.val ≤ most := by
  simp [between]

theorem CodePoint.between_eq_false_iff {least most : Nat} {c : CodePoint} :
    c.between least most = false ↔ c.val < least ∨ most < c.val := by
  rw [← Bool.not_eq_true, between_iff]
  omega

namespace Wide

theorem highUnit_lt (c : CodePoint) : highUnit c < 0xDC00 := by
  have := c.isLt
  unfold highUnit
  omega

theorem lowUnit_lt (c : CodePoint) : lowUnit c < 0xE000 := by
  unfold lowUnit
  omega

/-- The first surrogate of a code point beyond sixteen bits. -/
def high (c : CodePoint) : CodePoint := ⟨highUnit c, Nat.lt_trans (highUnit_lt c) (by decide)⟩

/-- The second surrogate of a code point beyond sixteen bits. -/
def low (c : CodePoint) : CodePoint := ⟨lowUnit c, Nat.lt_trans (lowUnit_lt c) (by decide)⟩

theorem isHighSurrogate_high (c : CodePoint) : (high c).isHighSurrogate = true := by
  have : 0xD800 ≤ highUnit c := Nat.le_add_right _ _
  rw [CodePoint.isHighSurrogate, CodePoint.between_iff]
  exact ⟨this, Nat.le_of_lt_succ (highUnit_lt c)⟩

theorem isLowSurrogate_low (c : CodePoint) : (low c).isLowSurrogate = true := by
  have : 0xDC00 ≤ lowUnit c := Nat.le_add_right _ _
  rw [CodePoint.isLowSurrogate, CodePoint.between_iff]
  exact ⟨this, Nat.le_of_lt_succ (lowUnit_lt c)⟩

theorem isLowSurrogate_high (c : CodePoint) : (high c).isLowSurrogate = false := by
  rw [CodePoint.isLowSurrogate, CodePoint.between_eq_false_iff]
  exact .inl (highUnit_lt c)

theorem pair_high_low {c : CodePoint} (h : 0x10000 ≤ c.val) : pair (high c) (low c) = c := by
  have := c.isLt
  apply Fin.ext
  simp only [pair, high, low, highUnit, lowUnit]
  omega

-- ---------------------------------------------------------------------------
-- Halves
-- ---------------------------------------------------------------------------

def halvesOf (c : CodePoint) : Text := if c.val < 0x10000 then [c] else [high c, low c]

/-- Every code point beyond sixteen bits written as its two surrogates. -/
def halves (t : Text) : Text := t.flatMap halvesOf

theorem halvesOf_of_lt {c : CodePoint} (h : c.val < 0x10000) : halvesOf c = [c] := if_pos h

theorem halvesOf_of_le {c : CodePoint} (h : 0x10000 ≤ c.val) : halvesOf c = [high c, low c] :=
  if_neg (by omega)

@[simp] theorem halves_cons (c : CodePoint) (t : Text) : halves (c :: t) = halvesOf c ++ halves t :=
  rfl

theorem halves_append (t u : Text) : halves (t ++ u) = halves t ++ halves u := by
  simp [halves]

theorem halves_of_lt {t : Text} (h : ∀ c ∈ t, c.val < 0x10000) : halves t = t := by
  induction t with
  | nil => rfl
  | cons c t ih =>
    obtain ⟨hc, ht⟩ := List.forall_mem_cons.1 h
    rw [halves_cons, halvesOf_of_lt hc, ih ht, List.singleton_append]

theorem halves_of_isAscii {t : Text} (h : t.isAscii = true) : halves t = t := by
  refine halves_of_lt fun c hc => ?_
  have hc := of_decide_eq_true (List.all_eq_true.1 h c hc)
  omega

/-- The last half of a pair is a low surrogate, so every other end is one of the text itself. -/
theorem exists_of_halves_eq_append {t u : Text} {c : CodePoint} (hc : c.isLowSurrogate = false)
    (h : halves t = u ++ [c]) : ∃ v, t = v ++ [c] := by
  rcases List.eq_nil_or_concat t with rfl | ⟨v, d, rfl⟩
  · exact absurd h.symm (by simp [halves])
  · have hd : halves [d] = halvesOf d := List.append_nil _
    rw [List.concat_eq_append, halves_append, hd] at h
    by_cases hlt : d.val < 0x10000
    · rw [halvesOf_of_lt hlt] at h
      have hdc : [d] = [c] := (List.append_inj' h (by simp)).2
      exact ⟨v, by rw [List.concat_eq_append, hdc]⟩
    · rw [halvesOf_of_le (by omega), ← List.singleton_append, ← List.append_assoc] at h
      have hdc : [low d] = [c] := (List.append_inj' h (by simp)).2
      rw [← List.singleton_inj.1 hdc, isLowSurrogate_low] at hc
      cases hc

-- ---------------------------------------------------------------------------
-- Pairs
-- ---------------------------------------------------------------------------

theorem joinPairs_append {d : CodePoint} (hd : d.isLowSurrogate = false) (t : Text) :
    joinPairs (t ++ [d]) = joinPairs t ++ [d] := by
  fun_induction joinPairs t with
  | case1 => rfl
  | case2 c =>
    rw [List.singleton_append, joinPairs, if_neg (by simp [hd])]
    rfl
  | case3 c e t h ih =>
    rw [List.cons_append, List.cons_append, joinPairs, if_pos h, ih]
    rfl
  | case4 c e t h ih =>
    rw [List.cons_append, List.cons_append, joinPairs, if_neg h, ← List.cons_append, ih]
    rfl

/-- No high surrogate is followed by a low one. -/
def HasNoPairs : Text → Prop
  | c :: d :: t => ¬(c.isHighSurrogate = true ∧ d.isLowSurrogate = true) ∧ HasNoPairs (d :: t)
  | _ => True

instance decidableHasNoPairs : (t : Text) → Decidable (HasNoPairs t)
  | [] | [_] => isTrue trivial
  | c :: d :: t =>
    have := decidableHasNoPairs (d :: t)
    inferInstanceAs (Decidable (¬(c.isHighSurrogate = true ∧ d.isLowSurrogate = true) ∧ _))

theorem joinPairs_of_hasNoPairs {t : Text} (h : HasNoPairs t) : joinPairs t = t := by
  fun_induction joinPairs t with
  | case1 | case2 => rfl
  | case3 c d t hp => exact absurd (by simpa using hp) h.1
  | case4 c d t hp ih => rw [ih h.2]

theorem joinPairs_of_isAscii {t : Text} (h : t.isAscii = true) : joinPairs t = t := by
  apply joinPairs_of_hasNoPairs
  induction t with
  | nil => trivial
  | cons c t ih =>
    cases t with
    | nil => trivial
    | cons d t =>
      simp only [Text.isAscii, List.all_cons, Bool.and_eq_true, CodePoint.isAscii,
        decide_eq_true_eq] at h ih
      refine ⟨?_, ih h.2⟩
      rw [CodePoint.isHighSurrogate, CodePoint.between_iff]
      omega

theorem joinPairs_of_isUnicode {t : Text} (h : t.isUnicode = true) : joinPairs t = t := by
  apply joinPairs_of_hasNoPairs
  induction t with
  | nil => trivial
  | cons c t ih =>
    cases t with
    | nil => trivial
    | cons d t =>
      simp only [Text.isUnicode, List.all_cons, Bool.and_eq_true, Bool.not_eq_true',
        CodePoint.isSurrogate, CodePoint.between_eq_false_iff] at h ih
      refine ⟨?_, ih h.2⟩
      rw [CodePoint.isHighSurrogate, CodePoint.between_iff]
      omega

end Wide

end ConnectionProfile
