import ConnectionProfile.Text

/-!
# The end of a text

How often a text ends in one code point, and what is left when it is taken away.
-/

namespace ConnectionProfile

namespace Text

theorem withoutFinal_append (t : Text) (c : CodePoint) : withoutFinal c (t ++ [c]) = t := by
  simp [withoutFinal, withoutFinal?_eq_some.2 rfl]

theorem withoutFinal_of_ne {t : Text} {c : CodePoint} (h : ∀ u, t ≠ u ++ [c]) :
    withoutFinal c t = t := by
  cases hf : withoutFinal? c t with
  | none => simp [withoutFinal, hf]
  | some u => exact absurd (withoutFinal?_eq_some.1 hf) (h u)

theorem withoutFinal_cases (t : Text) (c : CodePoint) :
    (∃ u, t = u ++ [c] ∧ withoutFinal c t = u) ∨
      (∀ u, t ≠ u ++ [c]) ∧ withoutFinal c t = t := by
  by_cases h : ∃ u, t = u ++ [c]
  · obtain ⟨u, rfl⟩ := h
    exact .inl ⟨u, rfl, withoutFinal_append u c⟩
  · have h : ∀ u, t ≠ u ++ [c] := fun u hu => h ⟨u, hu⟩
    exact .inr ⟨h, withoutFinal_of_ne h⟩

theorem cut?_append {t a b : Text} {sep : CodePoint} (u : Text) (h : t.cut? sep = some (a, b)) :
    (t ++ u).cut? sep = some (a, b ++ u) := by
  obtain ⟨rfl, ha⟩ := cut?_eq_some.1 h
  exact cut?_eq_some.2 ⟨by simp, ha⟩

theorem cut?_append_of_none {t : Text} {sep c : CodePoint} (h : t.cut? sep = none) (hc : c ≠ sep) :
    (t ++ [c]).cut? sep = none := by
  rw [cut?_eq_none] at h ⊢
  simpa [h] using Ne.symm hc

theorem withoutFinal_eq_self {t : Text} {c : CodePoint} :
    withoutFinal c t = t ↔ ∀ u, t ≠ u ++ [c] := by
  constructor
  · rintro h u rfl
    rw [withoutFinal_append] at h
    simpa using congrArg List.length h
  · exact withoutFinal_of_ne

/-- How many `c` stand at the end. -/
def finalCount (c : CodePoint) (t : Text) : Nat := (t.reverse.takeWhile (· = c)).length

/-- The text without its last `n` final `c`, or without all that it has. -/
def withoutFinals (c : CodePoint) : Nat → Text → Text
  | 0, t => t
  | n + 1, t => withoutFinals c n (withoutFinal c t)

theorem finalCount_append (t : Text) (c : CodePoint) :
    finalCount c (t ++ [c]) = finalCount c t + 1 := by
  simp [finalCount]

theorem finalCount_eq_zero {t : Text} {c : CodePoint} :
    finalCount c t = 0 ↔ ∀ u, t ≠ u ++ [c] := by
  constructor
  · rintro h u rfl
    rw [finalCount_append] at h
    cases h
  · intro h
    rcases List.eq_nil_or_concat t with rfl | ⟨u, d, rfl⟩
    · rfl
    · have hd : d ≠ c := by
        rintro rfl
        exact h u (List.concat_eq_append ..)
      simp [finalCount, hd]

theorem finalCount_withoutFinal (c : CodePoint) (t : Text) :
    finalCount c (withoutFinal c t) = finalCount c t - 1 := by
  rcases withoutFinal_cases t c with ⟨u, rfl, hu⟩ | ⟨h, ht⟩
  · rw [hu, finalCount_append, Nat.add_sub_cancel]
  · rw [ht, finalCount_eq_zero.2 h]

theorem finalCount_withoutFinals (c : CodePoint) (n : Nat) (t : Text) :
    finalCount c (withoutFinals c n t) = finalCount c t - n := by
  induction n generalizing t with
  | zero => rfl
  | succ n ih =>
    rw [withoutFinals, ih, finalCount_withoutFinal]
    omega

/-- A text is left as it is once all its final `c` are gone. -/
theorem withoutFinal_withoutFinals {c : CodePoint} {n : Nat} {t : Text} (h : finalCount c t ≤ n) :
    withoutFinal c (withoutFinals c n t) = withoutFinals c n t := by
  apply withoutFinal_of_ne
  rw [← finalCount_eq_zero, finalCount_withoutFinals]
  omega

end Text

end ConnectionProfile
