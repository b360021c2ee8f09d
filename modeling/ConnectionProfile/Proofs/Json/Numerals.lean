import ConnectionProfile.Number.Shortest
import ConnectionProfile.Proofs.Json.Reading

/-!
# Numerals in their place

A written number is followed by a mark, by a blank or by nothing. What follows it does not change
how much of it is read, so it is read in every place as it is read alone.
-/

namespace ConnectionProfile

/-- A code point that numbers are written with. -/
def CodePoint.isNumeric (c : CodePoint) : Bool :=
  c.isAsciiDigit || c = '-' || c = '+' || c = '.' || c = 'e'

/-- The text consists of code points that numbers are written with. -/
def Text.IsNumeric (t : Text) : Prop := ∀ c ∈ t, c.isNumeric = true

instance (t : Text) : Decidable t.IsNumeric := List.decidableBAll _ t

namespace Json

/-- What may follow a value. -/
def delimiters : Text := [' ', '\t', '\n', '\r', ',', ']', '\x7d']

/-- The text starts with a delimiter, if it does not end at once. -/
def IsDelimited (t : Text) : Prop := ∀ c ∈ t.head?, c ∈ delimiters

-- ---------------------------------------------------------------------------
-- Parts of a numeral
-- ---------------------------------------------------------------------------

/-- No delimiter belongs to a numeral or to a word. -/
theorem delimiters_spec : ∀ c ∈ delimiters, c.isAsciiDigit = false ∧ c ≠ '.' ∧ c.lowerAscii ≠ 'e' ∧
    c ≠ '+' ∧ c ≠ '-' ∧ c ≠ '0' ∧ c ≠ 'I' := by
  intro c hc
  simp only [delimiters, List.mem_cons, List.not_mem_nil, or_false] at hc
  rcases hc with rfl | rfl | rfl | rfl | rfl | rfl | rfl <;> decide

section
variable {rest : Text}

theorem digits_append (h : IsDelimited rest) (t : Text) : digits (t ++ rest) = digits t := by
  induction t with
  | nil =>
    cases rest with
    | nil => rfl
    | cons c rest => simp [digits, (delimiters_spec c (h c rfl)).1]
  | cons c t ih =>
    simp only [digits] at ih
    simp only [digits, List.cons_append, List.takeWhile_cons, ih]

theorem whole_append (h : IsDelimited rest) (t : Text) : whole (t ++ rest) = whole t := by
  cases t with
  | nil =>
    cases rest with
    | nil => rfl
    | cons c rest =>
      obtain ⟨hd, -, -, -, -, h0, -⟩ := delimiters_spec c (h c rfl)
      simp [whole, h0, digits, hd]
  | cons c t =>
    have hd := digits_append h (c :: t)
    simp only [List.cons_append] at hd
    simp only [whole, List.cons_append, hd]

theorem fraction_append (h : IsDelimited rest) (t : Text) : fraction (t ++ rest) = fraction t := by
  cases t with
  | nil =>
    cases rest with
    | nil => rfl
    | cons c rest => simp [fraction, (delimiters_spec c (h c rfl)).2.1]
  | cons c t => simp only [fraction, List.cons_append, digits_append h]

theorem exponent_append (h : IsDelimited rest) (t : Text) : exponent (t ++ rest) = exponent t := by
  match t with
  | [] =>
    cases rest with
    | nil => rfl
    | cons c rest => simp [exponent, (delimiters_spec c (h c rfl)).2.2.1]
  | [e] =>
    cases rest with
    | nil => rfl
    | cons c rest =>
      obtain ⟨hd, -, -, hp, hm, -, -⟩ := delimiters_spec c (h c rfl)
      simp [exponent, hp, hm, digits, hd]
  | e :: s :: t =>
    have hd := digits_append h (s :: t)
    simp only [List.cons_append] at hd
    simp only [exponent, List.cons_append, digits_append h, hd]

end

theorem isPrefix_digits (t : Text) : digits t <+: t := List.takeWhile_prefix _

theorem isPrefix_whole (t : Text) : whole t <+: t := by
  unfold whole
  split
  · split
    · exact ⟨_, rfl⟩
    · exact isPrefix_digits _
  · exact List.nil_prefix

theorem isPrefix_fraction (t : Text) : fraction t <+: t := by
  unfold fraction
  split
  · split
    · exact List.cons_prefix_cons.2 ⟨rfl, isPrefix_digits _⟩
    · exact List.nil_prefix
  · exact List.nil_prefix

theorem isPrefix_exponent (t : Text) : exponent t <+: t := by
  unfold exponent
  grind [isPrefix_digits]

/-- What is taken from the front of a text is taken from a longer one as well. -/
theorem drop_append {t lead : Text} (h : lead <+: t) (rest : Text) :
    (t ++ rest).drop lead.length = t.drop lead.length ++ rest :=
  List.drop_append_of_le_length h.length_le

theorem number_append {rest : Text} (h : IsDelimited rest) (negative : Bool) (t : Text) :
    number negative (t ++ rest) = if whole t = [] then (.junk, [])
      else ((number negative t).1, (number negative t).2 ++ rest) := by
  unfold number
  simp only [whole_append h, drop_append (isPrefix_whole t), fraction_append h,
    drop_append (isPrefix_fraction _), exponent_append h, drop_append (isPrefix_exponent _)]
  split <;> rfl

theorem isSuffix_number (negative : Bool) (t : Text) : (number negative t).2 <:+ t := by
  simp only [number]
  split
  · exact List.nil_suffix
  · exact ((List.drop_suffix _ _).trans (List.drop_suffix _ _)).trans (List.drop_suffix _ _)

-- ---------------------------------------------------------------------------
-- Tokens of numerals
-- ---------------------------------------------------------------------------

/-- The tokens that a numeral can be. -/
inductive Token.IsNumeral : Token → Prop
  | scalar (v : Value) : IsNumeral (.scalar v)
  | longInteger : IsNumeral .longInteger
  | junk : IsNumeral .junk

theorem isNumeral_number (negative : Bool) (t : Text) : (number negative t).1.IsNumeral := by
  simp only [number, numeral]
  repeat' split
  all_goals constructor

/-- What is left of a numeral after its sign. -/
def numberOf (c : CodePoint) (t : Text) : Token × Text :=
  if c = '-' then number true t else number false (c :: t)

section
variable {c : CodePoint} {t : Text}

theorem ne_of_isNumeric (hc : c.isNumeric = true) {d : CodePoint} (hd : d.isNumeric = false) :
    c ≠ d := by
  rintro rfl
  exact Bool.false_ne_true (hd.symm.trans hc)

theorem isSpace_of_isNumeric (hc : c.isNumeric = true) : isSpace c = false := by
  have h {d : CodePoint} := ne_of_isNumeric hc (d := d)
  simp +decide [isSpace, h]

theorem mark?_of_isNumeric (hc : c.isNumeric = true) : mark? c = none := by
  have h {d : CodePoint} := ne_of_isNumeric hc (d := d)
  simp +decide [mark?, h]

/-- Only one word starts like a numeral. -/
theorem word?_of_isNumeric (hc : c.isNumeric = true) (ht : c = '-' → ∀ d ∈ t.head?, d ≠ 'I') :
    word? (c :: t) = none := by
  have h {d : CodePoint} {w : Text} (hd : d.isNumeric = false) :
      Text.after? (c :: t) (d :: w) = none := if_neg (ne_of_isNumeric hc hd)
  have hi (w : Text) : Text.after? (c :: t) ('-' :: 'I' :: w) = none := by
    unfold Text.after?
    split
    · cases t with
      | nil => rfl
      | cons d t => exact if_neg (ht ‹_› d rfl)
    · rfl
  rw [word?, List.findSome?_eq_none_iff]
  intro w hw
  rw [Option.map_eq_none_iff]
  simp only [words, List.mem_cons, List.not_mem_nil, or_false] at hw
  rcases hw with rfl | rfl | rfl | rfl | rfl | rfl
  · exact h rfl
  · exact h rfl
  · exact h rfl
  · exact h rfl
  · exact h rfl
  · exact hi _

theorem lexeme_of_isNumeric (hc : c.isNumeric = true) (ht : c = '-' → ∀ d ∈ t.head?, d ≠ 'I') :
    lexeme c t = numberOf c t := by
  have hq : c ≠ '"' := ne_of_isNumeric hc rfl
  rw [lexeme, mark?_of_isNumeric hc, word?_of_isNumeric hc ht]
  simp only [if_neg hq, numberOf]

theorem isNumeral_numberOf (c : CodePoint) (t : Text) : (numberOf c t).1.IsNumeral := by
  unfold numberOf
  split
  · exact isNumeral_number _ _
  · exact isNumeral_number _ _

/-- In its place a numeral is what it is alone, unless it has no digits. -/
theorem numberOf_append (c : CodePoint) (t : Text) :
    (∀ rest, IsDelimited rest → numberOf c (t ++ rest) = (.junk, [])) ∨
      ∀ rest, IsDelimited rest →
        numberOf c (t ++ rest) = ((numberOf c t).1, (numberOf c t).2 ++ rest) := by
  have h (negative : Bool) (u : Text) :
      (∀ rest, IsDelimited rest → number negative (u ++ rest) = (.junk, [])) ∨
        ∀ rest, IsDelimited rest →
          number negative (u ++ rest) = ((number negative u).1, (number negative u).2 ++ rest) := by
    by_cases hw : whole u = []
    · exact .inl fun rest hr => by rw [number_append hr, if_pos hw]
    · exact .inr fun rest hr => by rw [number_append hr, if_neg hw]
  by_cases hc : c = '-'
  · simpa only [numberOf, if_pos hc] using h true t
  · simpa only [numberOf, if_neg hc, List.cons_append] using h false (c :: t)

theorem isSuffix_numberOf (c : CodePoint) (t : Text) : (numberOf c t).2 <:+ c :: t := by
  unfold numberOf
  split
  · exact (isSuffix_number true t).trans (List.suffix_cons c t)
  · exact isSuffix_number false (c :: t)

theorem tokens_of_isNumeric {rest : Text} (hr : IsDelimited rest) (ht : Text.IsNumeric (c :: t)) :
    tokens (c :: (t ++ rest)) =
      (numberOf c (t ++ rest)).1 :: tokens (numberOf c (t ++ rest)).2 := by
  have hc := ht c (List.mem_cons_self ..)
  rw [tokens, if_neg (by simp [isSpace_of_isNumeric hc]), lexeme_of_isNumeric hc]
  -- the second code point is another one of the numeral, or a delimiter
  rintro - d hd
  cases t with
  | nil => exact (delimiters_spec d (hr d hd)).2.2.2.2.2.2
  | cons e t =>
    cases hd
    exact ne_of_isNumeric (ht d (by simp)) rfl

end

-- ---------------------------------------------------------------------------
-- Numerals as they are read
-- ---------------------------------------------------------------------------

namespace Reader

/-- No numeral may follow a value. -/
theorem step_complete_of_isNumeral {m : Token} (hm : m.IsNumeral) (v : Value) (fs : List Frame) :
    step (.complete v fs) m = .error .malformed := by
  cases hm <;> rcases fs with _ | ⟨_ | _, _⟩ <;> rfl

theorem run_complete_numeral {c : CodePoint} {t rest : Text} (ht : Text.IsNumeric (c :: t))
    (hr : IsDelimited rest) (v : Value) (fs : List Frame) :
    run (.complete v fs) (c :: (t ++ rest)) = .error .malformed := by
  rw [run, tokens_of_isNumeric hr ht, List.foldlM_cons,
    step_complete_of_isNumeral (isNumeral_numberOf ..)]
  rfl

/-- A numeral is read as one value or it is bad, whatever follows. -/
theorem run_numeral {c : CodePoint} {t : Text} (ht : Text.IsNumeric (c :: t)) :
    ∃ o : Except ReadError Value, ∀ (fs : List Frame) (rest : Text), IsDelimited rest →
      run (.value fs) (c :: (t ++ rest)) = o >>= fun v => run (.complete v fs) rest := by
  rcases numberOf_append c t with h | h
  · refine ⟨.error .malformed, fun fs rest hr => ?_⟩
    rw [run, tokens_of_isNumeric hr ht, h rest hr]
    rfl
  have hm := isNumeral_numberOf c t
  have hs := isSuffix_numberOf c t
  generalize numberOf c t = out at h hm hs
  obtain ⟨m, left⟩ := out
  have hrun (fs : List Frame) {rest : Text} (hr : IsDelimited rest) :
      run (.value fs) (c :: (t ++ rest)) =
        step (.value fs) m >>= fun r => run r (left ++ rest) := by
    rw [run, tokens_of_isNumeric hr ht, h rest hr, List.foldlM_cons]
    rfl
  cases hm with
  | longInteger => exact ⟨.error .integerTooLong, fun fs rest hr => hrun fs hr⟩
  | junk => exact ⟨.error .malformed, fun fs rest hr => hrun fs hr⟩
  | scalar v =>
    cases left with
    | nil => exact ⟨.ok v, fun fs rest hr => hrun fs hr⟩
    | cons d left =>
      have hl : Text.IsNumeric (d :: left) := fun e he => ht e (hs.subset he)
      exact ⟨.error .malformed, fun fs rest hr =>
        (hrun fs hr).trans (run_complete_numeral hl hr v fs)⟩

end Reader

-- ---------------------------------------------------------------------------
-- Numbers as they are written
-- ---------------------------------------------------------------------------

theorem isNumeric_of_isDigit {c : Char} (h : c.isDigit = true) :
    (CodePoint.ofChar c).isNumeric = true := by
  have hd : (CodePoint.ofChar c).isAsciiDigit = true := by
    simp only [Char.isDigit, Bool.and_eq_true, decide_eq_true_eq, ge_iff_le,
      UInt32.le_iff_toNat_le] at h
    have h : 0x30 ≤ c.toNat ∧ c.toNat ≤ 0x39 := h
    simp only [CodePoint.isAsciiDigit, CodePoint.between, CodePoint.ofChar, Bool.and_eq_true]
    exact ⟨decide_eq_true h.1, decide_eq_true h.2⟩
  rw [CodePoint.isNumeric, hd]
  rfl

end Json

namespace Text.IsNumeric

variable {t u : Text}

theorem append (ht : t.IsNumeric) (hu : u.IsNumeric) : Text.IsNumeric (t ++ u) := by
  intro c hc
  exact (List.mem_append.1 hc).elim (ht c) (hu c)

theorem subset (ht : t.IsNumeric) (h : u ⊆ t) : u.IsNumeric := fun c hc => ht c (h hc)

theorem replicate {c : CodePoint} (hc : c.isNumeric = true) (n : Nat) :
    Text.IsNumeric (List.replicate n c) := by
  intro d hd
  rw [List.eq_of_mem_replicate hd]
  exact hc

theorem ofNat (n : Nat) : (Text.ofNat n).IsNumeric := by
  intro c hc
  obtain ⟨d, hd, rfl⟩ := List.mem_map.1 hc
  rw [Nat.toList_repr] at hd
  exact Json.isNumeric_of_isDigit (Nat.isDigit_of_mem_toDigits (by decide) (by decide) hd)

theorem ofInt (i : Int) : (Text.ofInt i).IsNumeric := by
  cases i with
  | ofNat n => exact ofNat n
  | negSucc n => exact append (by decide) (ofNat (n + 1))

theorem padded (width n : Nat) : (Text.padded width n).IsNumeric :=
  (replicate rfl _).append (ofNat n)

theorem layout (ht : t.IsNumeric) (e : Int) : (Binary64.layout t e).IsNumeric := by
  have hpoint : Text.IsNumeric "." := by decide
  have hzeros (n : Nat) : Text.IsNumeric (Binary64.zeros n) := replicate rfl n
  have hdrop (n : Nat) : Text.IsNumeric (t.drop n) := ht.subset (List.drop_subset n t)
  simp only [Binary64.layout]
  split
  · split
    · exact ((show Text.IsNumeric "0." by decide).append (hzeros _)).append ht
    · refine (((ht.append (hzeros _)).subset (List.take_subset _ _)).append hpoint).append ?_
      split
      · decide
      · exact hdrop _
  · have hfraction : Text.IsNumeric (if t.length = 1 then [] else "." ++ t.drop 1) := by
      split
      · decide
      · exact hpoint.append (hdrop 1)
    have hsign : Text.IsNumeric (if e < 0 then "-" else "+" : Text) := by
      split <;> decide
    exact ((((ht.subset (List.take_subset _ _)).append hfraction).append (by decide)).append
      hsign).append (padded 2 _)

theorem toText {x : Binary64} {negative : Bool} {m : Nat} {e : Int}
    (hx : x.view = .finite negative m e) : x.toText.IsNumeric := by
  have hsign : Text.IsNumeric (if negative = true then "-" else "" : Text) := by
    split <;> decide
  simp only [Binary64.toText, hx]
  split
  · exact hsign.append (by decide)
  · refine hsign.append (layout ?_ _)
    exact (ofNat (Binary64.shortest m e).1).subset fun c hc =>
      List.mem_reverse.1 ((List.dropWhile_sublist _).subset (List.mem_reverse.1 hc))

end Text.IsNumeric

theorem Text.ofNat_ne_nil (n : Nat) : Text.ofNat n ≠ [] := by
  simp [Text.ofNat, Text.ofString, Nat.toDigits_ne_nil]

theorem Text.ofInt_ne_nil (i : Int) : Text.ofInt i ≠ [] := by
  cases i with
  | ofNat n => exact ofNat_ne_nil n
  | negSucc n => exact List.cons_ne_nil _ _

theorem Binary64.layout_ne_nil (t : Text) (e : Int) : Binary64.layout t e ≠ [] := by
  simp only [Binary64.layout]
  split
  · split
    · exact List.cons_ne_nil _ _
    · simp [Text.ofString]
  · simp [Text.ofString]

theorem Binary64.toText_ne_nil {x : Binary64} {negative : Bool} {m : Nat} {e : Int}
    (hx : x.view = .finite negative m e) : x.toText ≠ [] := by
  simp only [Binary64.toText, hx]
  split
  · exact List.append_ne_nil_of_right_ne_nil _ (List.cons_ne_nil _ _)
  · exact List.append_ne_nil_of_right_ne_nil _ (layout_ne_nil _ _)

end ConnectionProfile
