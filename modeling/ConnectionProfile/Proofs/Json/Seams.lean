import ConnectionProfile.Proofs.Json.Parts

/-!
# Seams

A token ends where it ends, whatever follows it; only a number has to be followed by a delimiter. So a
text may be cut where a value may start: the reader goes on from there with what is left.
-/

namespace ConnectionProfile.Json

-- ---------------------------------------------------------------------------
-- Quoted texts
-- ---------------------------------------------------------------------------

/-- The pieces end with the text, whatever follows it. -/
def Quotes (t : Text) (ps : List Piece) : Prop := ∀ rest, pieces? (t ++ rest) = some (ps, rest)

/-- What is read of a text that starts with a piece. -/
theorem seam_of_putPieces (head : Text) {t rest : Text} {p : Piece} {ps : List Piece}
    (hp : ∀ u, pieces? (head ++ u) = putPieces [p] (pieces? u))
    (ih : ∀ {rest : Text} {ps : List Piece}, pieces? t = some (ps, rest) →
      ∃ lead, t = lead ++ rest ∧ Quotes lead ps)
    (h : pieces? (head ++ t) = some (ps, rest)) :
    ∃ lead, head ++ t = lead ++ rest ∧ Quotes lead ps := by
  rw [hp] at h
  obtain ⟨⟨qs, left⟩, hq, h⟩ := Option.map_eq_some_iff.1 h
  cases h
  obtain ⟨lead, rfl, hl⟩ := ih hq
  refine ⟨head ++ lead, (List.append_assoc ..).symm, fun v => ?_⟩
  rw [List.append_assoc, hp, hl]
  rfl

theorem pieces?_seam {t rest : Text} {ps : List Piece} (h : pieces? t = some (ps, rest)) :
    ∃ lead, t = lead ++ rest ∧ Quotes lead ps := by
  induction t using pieces?.induct generalizing ps rest with
  | case1 => cases h
  | case2 t =>
    rw [pieces?.eq_def] at h
    simp only [if_true, Option.some.injEq, Prod.mk.injEq] at h
    obtain ⟨rfl, rfl⟩ := h
    refine ⟨['"'], rfl, fun v => ?_⟩
    rw [List.singleton_append, pieces?.eq_def]
    simp only [if_true]
  | case3 c t hq hc =>
    rw [pieces?.eq_def] at h
    simp only [if_neg hq, if_pos hc] at h
    cases h
  | case4 c t hq hc hb ih =>
    exact seam_of_putPieces [c] (fun _ => pieces?_plain hq hb (Nat.not_lt.1 hc)) ih h
  | case5 c hq hc hb =>
    rw [pieces?.eq_def] at h
    simp only [if_neg hq, if_neg hc, if_neg hb] at h
    cases h
  | case6 c hq hc hb i j k l t ih =>
    obtain rfl := not_ne_iff.1 hb
    cases hd : (Numeral.digits? 16 [i, j, k, l]).bind CodePoint.ofNat? with
    | none =>
      rw [pieces?.eq_def] at h
      simp only [if_neg hq, if_neg hc, if_neg hb, if_true] at h
      obtain ⟨n, hn, h⟩ := Option.bind_eq_some_iff.1 h
      obtain ⟨d, hnd, -⟩ := Option.bind_eq_some_iff.1 h
      rw [hn, Option.bind_some, hnd] at hd
      cases hd
    | some d =>
      exact seam_of_putPieces ['\\', 'u', i, j, k, l]
        (fun _ => pieces?_numbered hd) ih h
  | case7 c hq hc hb t ht =>
    rw [pieces?.eq_def] at h
    simp only [if_neg hq, if_neg hc, if_neg hb, if_true] at h
    cases h
  | case8 c hq hc hb e t he ih =>
    obtain rfl := not_ne_iff.1 hb
    cases hd : escape? e with
    | none =>
      rw [pieces?.eq_def] at h
      simp only [if_neg hq, if_neg hc, if_neg hb, if_neg he, hd] at h
      cases h
    | some d =>
      exact seam_of_putPieces ['\\', e] (fun _ => pieces?_escape he hd) ih h

-- ---------------------------------------------------------------------------
-- Words and numerals
-- ---------------------------------------------------------------------------

theorem word?_seam {t rest : Text} {v : Value} (h : word? t = some (v, rest)) :
    ∃ w, (w, v) ∈ words ∧ t = w ++ rest := by
  obtain ⟨⟨w, u⟩, hm, hw⟩ := List.exists_of_findSome?_eq_some h
  obtain ⟨r, hr, he⟩ := Option.map_eq_some_iff.1 hw
  obtain ⟨rfl, rfl⟩ := Prod.mk.inj he
  exact ⟨w, hm, Text.after?_eq_some.1 hr⟩

/-- A numeral that is not bad has a digit after its sign. -/
theorem exists_digit_of_number {negative : Bool} {t : Text} (h : (number negative t).1 ≠ .junk) :
    ∃ d ∈ t.head?, d.isAsciiDigit = true := by
  have hw : whole t ≠ [] := by
    intro hw
    simp [number, hw] at h
  cases t with
  | nil => exact absurd rfl hw
  | cons d t =>
    refine ⟨d, rfl, ?_⟩
    by_cases hz : d = '0'
    · rw [hz]
      rfl
    · cases hd : d.isAsciiDigit with
      | true => rfl
      | false => simp [whole, hz, digits, hd] at hw

theorem lexeme_numeral {c : CodePoint} {t : Text} (h : (numberOf c t).1 ≠ .junk) :
    isSpace c = false ∧ lexeme c t = numberOf c t := by
  unfold numberOf at h
  split at h
  case isTrue hc =>
    obtain ⟨d, hd, hdigit⟩ := exists_digit_of_number h
    have hn : c.isNumeric = true := by
      rw [hc]
      rfl
    refine ⟨isSpace_of_isNumeric hn, lexeme_of_isNumeric hn fun _ e he => ?_⟩
    obtain rfl : d = e := Option.some.inj (hd.symm.trans he)
    rintro rfl
    cases hdigit
  case isFalse hc =>
    obtain ⟨d, hd, hdigit⟩ := exists_digit_of_number h
    obtain rfl : c = d := Option.some.inj hd
    have hn : c.isNumeric = true := by simp [CodePoint.isNumeric, hdigit]
    exact ⟨isSpace_of_isNumeric hn, lexeme_of_isNumeric hn fun h' => absurd h' hc⟩

/-- Only a scalar has to be followed by a delimiter. -/
def Token.MayPrecede (m : Token) (t : Text) : Prop := ∀ v, m = .scalar v → IsDelimited t

theorem numberOf_seam {c : CodePoint} {t left : Text} {m : Token} (h : numberOf c t = (m, left))
    (hj : m ≠ .junk) (hl : IsDelimited left) :
    ∃ lead, t = lead ++ left ∧ ∀ u, IsDelimited u → lexeme c (lead ++ u) = (m, u) := by
  have hlen := length_lexeme c t
  rw [(lexeme_numeral (by rwa [h])).2, h] at hlen
  have hs := isSuffix_numberOf c t
  rw [h] at hs
  obtain ht | ⟨lead, rfl⟩ := List.suffix_cons_iff.1 hs
  · rw [ht, List.length_cons] at hlen
    omega
  obtain ha | ha := numberOf_append c lead
  · rw [ha left hl] at h
    cases h
    exact absurd rfl hj
  · have hm := (ha left hl).symm.trans h
    rw [Prod.mk.injEq, List.append_left_eq_self] at hm
    refine ⟨lead, rfl, fun u hu => ?_⟩
    have hn : numberOf c (lead ++ u) = (m, u) := by rw [ha u hu, hm.1, hm.2, List.nil_append]
    rw [(lexeme_numeral (by rwa [hn])).2, hn]

/-- A token that is read at the start of a text is read at the start of every text that goes on
otherwise. -/
theorem lexeme_seam {c : CodePoint} {t left : Text} {m : Token} (h : lexeme c t = (m, left))
    (hj : m ≠ .junk) (hi : m ≠ .longInteger) (hl : m.MayPrecede left) :
    ∃ lead, t = lead ++ left ∧ ∀ u, m.MayPrecede u → lexeme c (lead ++ u) = (m, u) := by
  cases hm : mark? c with
  | some mark =>
    have hmark (u : Text) : lexeme c u = (mark, u) := by simp only [lexeme, hm]
    rw [hmark] at h
    cases h
    exact ⟨[], rfl, fun u _ => hmark u⟩
  | none =>
    by_cases hq : c = '"'
    · cases hp : pieces? t with
      | none =>
        simp only [lexeme, hm, if_pos hq, hp, Prod.mk.injEq] at h
        exact absurd h.1.symm hj
      | some r =>
        obtain ⟨ps, rest⟩ := r
        simp only [lexeme, hm, if_pos hq, hp, Prod.mk.injEq] at h
        obtain ⟨rfl, rfl⟩ := h
        obtain ⟨lead, rfl, hlead⟩ := pieces?_seam hp
        refine ⟨lead, rfl, fun u _ => ?_⟩
        simp only [lexeme, hm, if_pos hq, hlead u]
    · cases hw : word? (c :: t) with
      | some r =>
        obtain ⟨v, rest⟩ := r
        simp only [lexeme, hm, if_neg hq, hw, Prod.mk.injEq] at h
        obtain ⟨rfl, rfl⟩ := h
        obtain ⟨w, hmem, ht⟩ := word?_seam hw
        cases w with
        | nil => simp [words, Text.ofString] at hmem
        | cons d w =>
          obtain ⟨rfl, rfl⟩ := List.cons.inj ht
          refine ⟨w, rfl, fun u _ => ?_⟩
          have hu := word?_of_mem hmem u
          rw [List.cons_append] at hu
          simp only [lexeme, hm, if_neg hq, hu]
      | none =>
        have hn : numberOf c t = (m, left) := by
          simpa only [lexeme, hm, if_neg hq, hw, numberOf] using h
        have hm' := isNumeral_numberOf c t
        rw [hn] at hm'
        cases hm' with
        | scalar v =>
          obtain ⟨lead, ht, hlead⟩ := numberOf_seam hn hj (hl v rfl)
          exact ⟨lead, ht, fun u hu => hlead u (hu v rfl)⟩
        | longInteger => exact absurd rfl hi
        | junk => exact absurd rfl hj

/-- A token is a mark, a text, a word, a numeral or bad. -/
theorem lexeme_cases (c : CodePoint) (t : Text) :
    (∃ m, mark? c = some m ∧ lexeme c t = (m, t)) ∨ (∃ u rest, lexeme c t = (.text u, rest)) ∨
      (∃ v rest, lexeme c t = (.scalar v, rest)) ∨ lexeme c t = (.junk, []) ∨
      lexeme c t = numberOf c t := by
  unfold lexeme numberOf
  cases mark? c with
  | some m => exact .inl ⟨m, rfl, rfl⟩
  | none =>
    dsimp only
    split
    · split
      · exact .inr (.inl ⟨_, _, rfl⟩)
      · exact .inr (.inr (.inr (.inl rfl)))
    · split
      · exact .inr (.inr (.inl ⟨_, _, rfl⟩))
      · exact .inr (.inr (.inr (.inr rfl)))

-- ---------------------------------------------------------------------------
-- Runs of a reader
-- ---------------------------------------------------------------------------

namespace Reader

/-- A value may start here. -/
def AwaitsValue : Reader → Prop
  | .value _ | .firstItem _ => True
  | _ => False

theorem run_nil (r : Reader) : r.run [] = .ok r := by
  rw [run, tokens]
  rfl

theorem run_space {c : CodePoint} (h : isSpace c = true) (r : Reader) (t : Text) :
    r.run (c :: t) = r.run t := by
  rw [run, tokens_space h, run]

theorem run_lexeme {c : CodePoint} (h : isSpace c = false) (r : Reader) (t : Text) :
    r.run (c :: t) = r.step (lexeme c t).1 >>= fun s => s.run (lexeme c t).2 := by
  rw [run, tokens, if_neg (by simp [h]), List.foldlM_cons]
  rfl

theorem ne_of_step_ok {r s : Reader} {m : Token} (h : r.step m = .ok s) :
    m ≠ .junk ∧ m ≠ .longInteger := by
  constructor
  · rintro rfl
    cases r with
    | complete v fs => rcases fs with _ | ⟨_ | _, _⟩ <;> cases h
    | _ => cases h
  · rintro rfl
    cases r with
    | complete v fs => rcases fs with _ | ⟨_ | _, _⟩ <;> cases h
    | _ => cases h

theorem step_scalar_ok {r s : Reader} {v : Value} (h : r.step (.scalar v) = .ok s) :
    ∃ fs, s = .complete v fs := by
  cases r with
  | value fs =>
    cases h
    exact ⟨_, rfl⟩
  | firstItem fs =>
    cases h
    exact ⟨_, rfl⟩
  | complete w fs => rcases fs with _ | ⟨_ | _, _⟩ <;> cases h
  | _ => cases h

theorem step_complete_ok {v : Value} {fs : List Frame} {s : Reader} {m : Token}
    (h : (complete v fs).step m = .ok s) : m = .comma ∨ m = .closeList ∨ m = .closeMap := by
  rcases fs with _ | ⟨_ | _, _⟩ <;> cases m <;> cases h <;> simp

theorem step_integerTooLong {r : Reader} {m : Token} :
    r.step m = .error .integerTooLong ↔ m = .longInteger ∧ r.AwaitsValue := by
  cases r with
  | complete v fs => rcases fs with _ | ⟨_ | _, _⟩ <;> cases m <;> simp [step, AwaitsValue]
  | _ => cases m <;> simp [step, start, AwaitsValue]

theorem mem_delimiters_of_lexeme {c : CodePoint} {t : Text}
    (h : (lexeme c t).1 = .comma ∨ (lexeme c t).1 = .closeList ∨ (lexeme c t).1 = .closeMap) :
    c ∈ delimiters := by
  obtain ⟨m, hm, hx⟩ | ⟨u, rest, hx⟩ | ⟨v, rest, hx⟩ | hx | hx := lexeme_cases c t
  · rw [hx] at h
    unfold mark? at hm
    grind [delimiters]
  · simp [hx] at h
  · simp [hx] at h
  · simp [hx] at h
  · have hn := isNumeral_numberOf c t
    rw [hx] at h
    rcases h with h | h | h <;> rw [h] at hn <;> cases hn

/-- Whatever comes after a value starts with a delimiter. -/
theorem exists_delimiter {v : Value} {fs : List Frame} {t : Text} {s : Reader}
    (h : run (.complete v fs) t = .ok s) (hs : s.AwaitsValue) :
    ∃ d u, t = d :: u ∧ d ∈ delimiters := by
  cases t with
  | nil =>
    rw [run_nil] at h
    cases h
    exact hs.elim
  | cons d u =>
    refine ⟨d, u, rfl, ?_⟩
    cases hd : isSpace d with
    | true => exact mem_delimiters_of_isSpace hd
    | false =>
      rw [run_lexeme hd] at h
      obtain ⟨r, hr, -⟩ := Except.bind_ok.1 h
      exact mem_delimiters_of_lexeme (step_complete_ok hr)

theorem isDelimited_append {v : Value} {fs : List Frame} {t : Text} {s : Reader}
    (h : run (.complete v fs) t = .ok s) (hs : s.AwaitsValue) (u : Text) : IsDelimited (t ++ u) := by
  obtain ⟨d, w, rfl, hd⟩ := exists_delimiter h hs
  rintro _ ⟨⟩
  exact hd

theorem mayPrecede_append {r q s : Reader} {m : Token} {t : Text} (hm : r.step m = .ok q)
    (h : q.run t = .ok s) (hs : s.AwaitsValue) (u : Text) : m.MayPrecede (t ++ u) := by
  rintro v rfl
  obtain ⟨fs, rfl⟩ := step_scalar_ok hm
  exact isDelimited_append h hs u

/-- The text may be cut where a value may start. -/
theorem run_append {r s : Reader} {t : Text} (h : r.run t = .ok s) (hs : s.AwaitsValue) (u : Text) :
    r.run (t ++ u) = s.run u := by
  induction t using tokens.induct generalizing r with
  | case1 =>
    rw [run_nil] at h
    cases h
    rfl
  | case2 c t hc ih =>
    rw [List.cons_append, run_space hc]
    rw [run_space hc] at h
    exact ih h
  | case3 c t hc ih =>
    have hc : isSpace c = false := by simpa using hc
    rw [run_lexeme hc] at h
    generalize hx : lexeme c t = out at ih h
    obtain ⟨m, left⟩ := out
    obtain ⟨q, hq, hrun⟩ := Except.bind_ok.1 h
    obtain ⟨hj, hi⟩ := ne_of_step_ok hq
    have hl := mayPrecede_append hq hrun hs
    obtain ⟨lead, rfl, hlead⟩ := lexeme_seam hx hj hi (by simpa using hl [])
    rw [List.cons_append, List.append_assoc, run_lexeme hc, hlead _ (hl u), hq]
    exact ih hrun

end Reader

end ConnectionProfile.Json
