import ConnectionProfile.Proofs.Json.Seams

/-!
# Long integers

An integer with too many digits is not read, and it is told apart from a text that is malformed. This
comes to light when the reader meets the integer where a value may start, whatever follows.
-/

namespace ConnectionProfile.Json

/-- An integer with more digits than are read. -/
def IsLongInteger (numeral : Text) : Prop :=
  ∃ ds : Text, (numeral = ds ∨ numeral = ('-' : CodePoint) :: ds) ∧
    (∀ d ∈ ds, d.isAsciiDigit = true) ∧ ds.head? ≠ some ('0' : CodePoint) ∧
    Numeral.maxDecimalDigits < ds.length

/-- The text carries an integer on neither by digits nor by decimals nor by an exponent. -/
structure EndsInteger (rest : Text) : Prop where
  digits : digits rest = []
  fraction : fraction rest = []
  exponent : exponent rest = []

/-- The text comes to a place where a value may start, and there a long integer stands. -/
def HasLongInteger (t : Text) : Prop :=
  ∃ before numeral rest r, t = before ++ (numeral ++ rest) ∧ IsLongInteger numeral ∧
    EndsInteger rest ∧ Reader.run (.value []) before = .ok r ∧ r.AwaitsValue

-- ---------------------------------------------------------------------------
-- Numerals
-- ---------------------------------------------------------------------------

theorem exists_digits? {t : Text} (ht : t ≠ []) (h : ∀ d ∈ t, d.isAsciiDigit = true) :
    ∃ n, Numeral.digits? 10 t = some n := by
  have hd {c : CodePoint} (hc : c.isAsciiDigit = true) : c.val - 0x30 < 10 := by
    simp only [CodePoint.isAsciiDigit, CodePoint.between, Bool.and_eq_true, decide_eq_true_eq] at hc
    omega
  rw [Numeral.digits?, if_neg (by simpa using ht)]
  clear ht
  generalize 0 = n
  induction t generalizing n with
  | nil => exact ⟨n, rfl⟩
  | cons c t ih =>
    obtain ⟨hc, ht⟩ := List.forall_mem_cons.1 h
    simp only [List.foldlM_cons, CodePoint.digitValue?, hc, if_true, hd hc, Option.bind_eq_bind,
      Option.bind_some]
    exact ih ht _

theorem numeral_eq_longInteger {negative : Bool} {ds f e : Text} :
    numeral negative ds f e = .longInteger ↔ f = [] ∧ e = [] ∧
      (∃ n, Numeral.digits? 10 ds = some n) ∧ Numeral.maxDecimalDigits < ds.length := by
  unfold numeral
  by_cases h : f = [] ∧ e = []
  · rw [if_pos h, ← and_assoc, and_iff_right h]
    cases Numeral.digits? 10 ds with
    | none => simp
    | some n => by_cases hl : Numeral.maxDecimalDigits < ds.length <;> simp [hl]
  · rw [if_neg h, ← and_assoc]
    simp only [h, false_and, iff_false]
    split <;> simp

theorem whole_of_head_ne {t : Text} (h : t.head? ≠ some ('0' : CodePoint)) : whole t = digits t := by
  cases t with
  | nil => rfl
  | cons c t => exact if_neg fun hc => h (congrArg some hc)

theorem digits_append_of_forall {ds rest : Text} (hd : ∀ d ∈ ds, d.isAsciiDigit = true)
    (hr : digits rest = []) : digits (ds ++ rest) = ds := by
  rw [digits, List.takeWhile_append_of_pos hd]
  exact (congrArg (ds ++ ·) hr).trans (List.append_nil ds)

/-- A text is its first digits and a rest that does not start with one. -/
theorem exists_eq_digits_append (t : Text) : ∃ rest, t = digits t ++ rest ∧ digits rest = [] := by
  refine ⟨t.dropWhile CodePoint.isAsciiDigit, List.takeWhile_append_dropWhile.symm, ?_⟩
  induction t with
  | nil => rfl
  | cons c t ih =>
    cases hc : c.isAsciiDigit with
    | true => simpa [List.dropWhile_cons, hc] using ih
    | false => simp [digits, hc]

theorem number_eq_longInteger {negative : Bool} {t rest : Text} :
    number negative t = (.longInteger, rest) ↔ ∃ ds, t = ds ++ rest ∧
      (∀ d ∈ ds, d.isAsciiDigit = true) ∧ ds.head? ≠ some ('0' : CodePoint) ∧
      Numeral.maxDecimalDigits < ds.length ∧ EndsInteger rest := by
  constructor
  · intro h
    have hw : whole t ≠ [] := by
      intro hw
      simp [number, hw] at h
    simp only [number, if_neg hw, Prod.mk.injEq] at h
    obtain ⟨hm, hrest⟩ := h
    obtain ⟨hf, he, -, hl⟩ := numeral_eq_longInteger.1 hm
    simp only [hf, List.length_nil, List.drop_zero] at he
    simp only [hf, he, List.length_nil, List.drop_zero] at hrest
    have hz : t.head? ≠ some ('0' : CodePoint) := by
      intro hz
      obtain ⟨u, rfl⟩ := List.head?_eq_some_iff.1 hz
      have h0 : whole (('0' : CodePoint) :: u) = ['0'] := by simp [whole]
      rw [h0] at hl
      exact absurd hl (by decide)
    rw [whole_of_head_ne hz] at hf he hl hrest hw
    obtain ⟨u, ht, hu⟩ := exists_eq_digits_append t
    have hd : ∀ d ∈ digits t, d.isAsciiDigit = true := List.all_eq_true.1 List.all_takeWhile
    generalize digits t = ds at ht hf he hl hrest hw hd
    subst ht
    simp only [List.drop_left] at hf he hrest
    subst hrest
    exact ⟨ds, rfl, hd, by rwa [List.head?_append_of_ne_nil _ hw] at hz, hl, hu, hf, he⟩
  · rintro ⟨ds, rfl, hd, hz, hl, hr⟩
    have hne : ds ≠ [] := by
      rintro rfl
      cases hl
    have hw : whole (ds ++ rest) = ds := by
      rw [whole_of_head_ne (by rwa [List.head?_append_of_ne_nil _ hne]),
        digits_append_of_forall hd hr.digits]
    have hn : numeral negative ds [] [] = .longInteger :=
      numeral_eq_longInteger.2 ⟨rfl, rfl, exists_digits? hne hd, hl⟩
    simp only [number, hw, if_neg hne, List.drop_left, hr.fraction, hr.exponent, List.length_nil,
      List.drop_zero, hn]

theorem numberOf_eq_longInteger {c : CodePoint} {t rest : Text} :
    numberOf c t = (.longInteger, rest) ↔
      ∃ numeral, c :: t = numeral ++ rest ∧ IsLongInteger numeral ∧ EndsInteger rest := by
  unfold numberOf
  constructor
  · intro h
    split at h
    case isTrue hc =>
      obtain ⟨ds, rfl, hd, hz, hl, hr⟩ := number_eq_longInteger.1 h
      exact ⟨c :: ds, rfl, ⟨ds, .inr (by rw [hc]), hd, hz, hl⟩, hr⟩
    case isFalse hc =>
      obtain ⟨ds, ht, hd, hz, hl, hr⟩ := number_eq_longInteger.1 h
      exact ⟨ds, ht, ⟨ds, .inl rfl, hd, hz, hl⟩, hr⟩
  · rintro ⟨numeral, ht, ⟨ds, rfl | rfl, hd, hz, hl⟩, hr⟩
    · have hc : c ≠ '-' := by
        rintro rfl
        cases numeral with
        | nil => cases hl
        | cons d ds =>
          obtain ⟨rfl, -⟩ := List.cons.inj ht
          cases hd _ (List.mem_cons_self ..)
      rw [if_neg hc]
      exact number_eq_longInteger.2 ⟨numeral, ht, hd, hz, hl, hr⟩
    · obtain ⟨rfl, rfl⟩ := List.cons.inj ht
      rw [if_pos rfl]
      exact number_eq_longInteger.2 ⟨ds, rfl, hd, hz, hl, hr⟩

/-- No other token is one. -/
theorem lexeme_eq_longInteger {c : CodePoint} {t rest : Text} :
    lexeme c t = (.longInteger, rest) ↔ numberOf c t = (.longInteger, rest) := by
  constructor
  · intro h
    obtain ⟨m, hm, hx⟩ | ⟨u, left, hx⟩ | ⟨v, left, hx⟩ | hx | hx := lexeme_cases c t
    · rw [hx] at h
      cases h
      unfold mark? at hm
      grind
    · simp [hx] at h
    · simp [hx] at h
    · simp [hx] at h
    · rwa [← hx]
  · intro h
    rw [(lexeme_numeral (by simp [h])).2, h]

-- ---------------------------------------------------------------------------
-- Texts
-- ---------------------------------------------------------------------------

namespace Reader

theorem run_longInteger {r : Reader} (hr : r.AwaitsValue) {numeral rest : Text}
    (hn : IsLongInteger numeral) (he : EndsInteger rest) :
    r.run (numeral ++ rest) = .error .integerTooLong := by
  have hne : numeral ≠ [] := by
    rintro rfl
    obtain ⟨ds, rfl | hds, -, -, hl⟩ := hn
    · cases hl
    · cases hds
  obtain ⟨c, t, rfl⟩ := List.exists_cons_of_ne_nil hne
  have h : numberOf c (t ++ rest) = (.longInteger, rest) :=
    numberOf_eq_longInteger.2 ⟨c :: t, rfl, hn, he⟩
  have hc : isSpace c = false := (lexeme_numeral (by rw [h]; exact nofun)).1
  rw [List.cons_append, run_lexeme hc, lexeme_eq_longInteger.2 h,
    step_integerTooLong.2 ⟨rfl, hr⟩]
  rfl

/-- The reader meets a long integer, if it does, where it awaits a value. -/
theorem run_integerTooLong {r : Reader} {t : Text} :
    r.run t = .error .integerTooLong ↔
      ∃ before numeral rest s, t = before ++ (numeral ++ rest) ∧ IsLongInteger numeral ∧
        EndsInteger rest ∧ r.run before = .ok s ∧ s.AwaitsValue := by
  constructor
  · intro h
    induction t using tokens.induct generalizing r with
    | case1 =>
      rw [run_nil] at h
      cases h
    | case2 c t hc ih =>
      rw [run_space hc] at h
      obtain ⟨before, numeral, rest, s, rfl, hn, he, hb, hs⟩ := ih h
      exact ⟨c :: before, numeral, rest, s, rfl, hn, he, (run_space hc r before).trans hb, hs⟩
    | case3 c t hc ih =>
      have hc : isSpace c = false := by simpa using hc
      rw [run_lexeme hc] at h
      generalize hx : lexeme c t = out at ih h
      obtain ⟨m, left⟩ := out
      obtain h | ⟨q, hq, h⟩ := Except.bind_error.1 h
      · obtain ⟨rfl, hr⟩ := step_integerTooLong.1 h
        obtain ⟨numeral, ht, hn, he⟩ :=
          numberOf_eq_longInteger.1 (lexeme_eq_longInteger.1 hx)
        exact ⟨[], numeral, left, r, ht, hn, he, run_nil r, hr⟩
      · obtain ⟨before, numeral, rest, s, rfl, hn, he, hb, hs⟩ := ih h
        obtain ⟨hj, hi⟩ := ne_of_step_ok hq
        have hl := mayPrecede_append hq hb hs
        obtain ⟨lead, rfl, hlead⟩ := lexeme_seam hx hj hi (hl _)
        refine ⟨c :: (lead ++ before), numeral, rest, s, by simp, hn, he, ?_, hs⟩
        rw [run_lexeme hc, hlead before (by simpa using hl []), hq]
        exact hb
  · rintro ⟨before, numeral, rest, s, rfl, hn, he, hb, hs⟩
    rw [run_append hb hs]
    exact run_longInteger hs hn he

end Reader

theorem read_integerTooLong {t : Text} :
    read t = .error .integerTooLong ↔ HasLongInteger t := by
  have hr : read t = Reader.run (.value []) t >>= Reader.result := rfl
  rw [hr, Except.bind_error, Reader.run_integerTooLong]
  refine or_iff_left_iff_imp.2 ?_
  rintro ⟨r, -, h⟩
  unfold Reader.result at h
  split at h <;> cases h

end ConnectionProfile.Json
