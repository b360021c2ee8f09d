import ConnectionProfile.Proofs.Text.Hex
import ConnectionProfile.Text.Quoted
import Mathlib.Tactic.SplitIfs

/-!
# Quoted text is unique

Where a quoted text ends can be told from the text itself, and so can every code point in it. So two
quoted texts that stand at the same place of equal texts quote the same (`text_append_inj`).
-/

namespace ConnectionProfile.Quoted

/-- The code point that was written with so many digits. -/
def numbered? (width : Nat) (t : Text) : Option (CodePoint × Text) := do
  let n ← Numeral.digits? 16 (t.take width)
  let c ← CodePoint.ofNat? n
  return (c, t.drop width)

/-- The code point that is written at the start of a text, and what follows it. -/
def unescape? : Text → Option (CodePoint × Text)
  | b :: e :: rest =>
    if b ≠ '\\' then some (b, e :: rest)
    else if e = 't' then some ('\t', rest)
    else if e = 'n' then some ('\n', rest)
    else if e = 'r' then some ('\r', rest)
    else if e = 'x' then numbered? 2 rest
    else if e = 'u' then numbered? 4 rest
    else if e = 'U' then numbered? 8 rest
    else some (e, rest)
  | _ => none

theorem numbered?_hex {width : Nat} {c : CodePoint} (hw : 0 < width) (h : c.val < 16 ^ width)
    (rest : Text) : numbered? width (Text.hex width c.val ++ rest) = some (c, rest) := by
  have hl := Text.length_hex width c.val
  have hc : CodePoint.ofNat? c.val = some c := by
    rw [CodePoint.ofNat?, dif_pos c.isLt]
  rw [numbered?, List.take_left' hl, List.drop_left' hl, Text.digits?_hex hw h]
  simp only [Option.bind_eq_bind, Option.bind_some, hc, Option.pure_def]

/-- The marks that texts are quoted with. -/
def IsMark (m : CodePoint) : Prop := m = '\'' ∨ m = '"'

theorem isMark_mark (t : Text) : IsMark (mark t) := by
  unfold mark
  split
  · exact .inr rfl
  · exact .inl rfl

section
variable {m c : CodePoint} {rest x y : Text}

theorem unescape?_escapeOne (hm : IsMark m) (hr : rest ≠ []) :
    unescape? (escapeOne m c ++ rest) = some (c, rest) := by
  unfold escapeOne
  split
  case isTrue h =>
    have hc : IsMark c ∨ c = '\\' := h.imp_left fun (h : c = m) => h ▸ hm
    obtain (rfl | rfl) | rfl := hc <;> rfl
  case isFalse h =>
    have hb : c ≠ '\\' := fun hc => h (.inr hc)
    split_ifs with ht hn hr' hp hx hu
    · rw [ht]
      rfl
    · rw [hn]
      rfl
    · rw [hr']
      rfl
    · obtain ⟨e, rest, rfl⟩ := List.exists_cons_of_ne_nil hr
      exact if_pos hb
    · exact numbered?_hex (by decide) hx rest
    · exact numbered?_hex (by decide) hu rest
    · exact numbered?_hex (by decide) (Nat.lt_trans c.isLt (by decide)) rest

/-- The mark that ends a quoted text is not escaped, and all else that looks like it is. -/
theorem escapeOne_ne_mark (hm : IsMark m) : (escapeOne m c ++ rest).head? ≠ some m := by
  have hb : ('\\' : CodePoint) ≠ m := by
    obtain rfl | rfl := hm <;> decide
  unfold escapeOne
  split
  case isTrue => simpa using hb
  case isFalse h =>
    have hs {t : Text} : (('\\' : CodePoint) :: t).head? ≠ some m :=
      fun hc => hb (Option.some.inj hc)
    split_ifs with ht hn hr hp
    · exact hs
    · exact hs
    · exact hs
    · exact fun hc => h (.inl (Option.some.inj hc))
    · exact hs
    · exact hs
    · exact hs

theorem escaped_append_inj (hm : IsMark m) {t u : Text}
    (h : t.flatMap (escapeOne m) ++ m :: x = u.flatMap (escapeOne m) ++ m :: y) :
    t = u ∧ x = y := by
  induction t generalizing u with
  | nil =>
    cases u with
    | nil => exact ⟨rfl, (List.cons.inj h).2⟩
    | cons d u =>
      rw [List.flatMap_cons, List.append_assoc] at h
      exact absurd (congrArg List.head? h).symm (escapeOne_ne_mark hm)
  | cons c t ih =>
    cases u with
    | nil =>
      rw [List.flatMap_cons, List.append_assoc] at h
      exact absurd (congrArg List.head? h) (escapeOne_ne_mark hm)
    | cons d u =>
      rw [List.flatMap_cons, List.flatMap_cons, List.append_assoc, List.append_assoc] at h
      have hu := congrArg unescape? h
      rw [unescape?_escapeOne hm (by simp), unescape?_escapeOne hm (by simp)] at hu
      obtain ⟨rfl, hrest⟩ := Prod.mk.inj (Option.some.inj hu)
      obtain ⟨rfl, rfl⟩ := ih hrest
      exact ⟨rfl, rfl⟩

theorem text_append_inj {t u : Text} (h : text t ++ x = text u ++ y) : t = u ∧ x = y := by
  simp only [text, List.cons_append, List.append_assoc] at h
  obtain ⟨hm, h⟩ := List.cons.inj h
  rw [hm] at h
  exact escaped_append_inj (isMark_mark u) h

end

end ConnectionProfile.Quoted
