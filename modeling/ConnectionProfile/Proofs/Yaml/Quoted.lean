import ConnectionProfile.Proofs.Json.Escapes
import ConnectionProfile.Proofs.Text.Hex
import ConnectionProfile.Yaml.Token.Quoted

/-!
# Quoted texts in YAML

The ASCII form of a text between quotation marks is a quoted scalar. Every escape stands for one
code point there, so a surrogate pair stays two of them.
-/

namespace ConnectionProfile.Yaml.Quoting

theorem emit_emit (t u : Text) (x : Except Fault (Text × Text)) :
    emit t (emit u x) = emit (t ++ u) x := by
  cases x with
  | error _ => rfl
  | ok p => simp [emit, Except.map]

theorem emit_ok (t u rest : Text) : emit t (.ok (u, rest)) = .ok (t ++ u, rest) := rfl

section
variable {blanks rest : Text} {c d e : CodePoint}

/-- One code point between the marks. -/
theorem read_inline (blanks : Text) (c : CodePoint) (rest : Text) :
    read true (.inline blanks) (c :: rest) =
      if isWhite c then read true (.inline (blanks ++ [c])) rest
      else if isBreak c then
        if isDocumentBorder rest then .error .malformed
        else read true (.folding (some (breakText c)) []) rest
      else match inside true c with
        | none => .ok (blanks, rest)
        | some (t, state) => emit (blanks ++ t) (read true state rest) := rfl

/-- What follows a backslash. -/
theorem read_escaped (e : CodePoint) (rest : Text) :
    read true .escape (e :: rest) =
      match escaped? e, digitCount? e with
      | some d, _ => emit [d] (read true (.inline []) rest)
      | none, some n => read true (.digits n 0) rest
      | none, none =>
        if isBreak e then
          if isDocumentBorder rest then .error .malformed
          else read true (.folding none []) rest
        else .error .malformed := rfl

/-- One digit of an escape. -/
theorem read_digits (left value : Nat) (c : CodePoint) (rest : Text) :
    read true (.digits left value) (c :: rest) =
      match c.digitValue? with
      | none => .error .malformed
      | some d =>
        if 16 ≤ d then .error .malformed
        else if left ≤ 1 then
          match CodePoint.ofNat? (value * 16 + d) with
          | some e => emit [e] (read true (.inline []) rest)
          | none => .error (.codePointTooLarge (value * 16 + d))
        else read true (.digits (left - 1) (value * 16 + d)) rest := rfl

theorem read_blank (h : isWhite c = true) :
    read true (.inline blanks) (c :: rest) = read true (.inline (blanks ++ [c])) rest := by
  rw [read_inline, if_pos h]

theorem read_plain (hw : isWhite c = false) (hb : isBreak c = false) (hq : c ≠ '"')
    (he : c ≠ '\\') :
    read true (.inline blanks) (c :: rest) =
      emit (blanks ++ [c]) (read true (.inline []) rest) := by
  rw [read_inline, if_neg (by simp [hw]), if_neg (by simp [hb])]
  simp only [inside, if_true, if_neg hq, if_neg he]

theorem read_close :
    read true (.inline blanks) (('"' : CodePoint) :: rest) = .ok (blanks, rest) := by
  rw [read_inline, if_neg (by decide), if_neg (by decide)]
  rfl

theorem read_backslash :
    read true (.inline blanks) (('\\' : CodePoint) :: rest) =
      emit blanks (read true .escape rest) := by
  rw [read_inline, if_neg (by decide), if_neg (by decide)]
  have hi : inside true '\\' = some ([], .escape) := rfl
  rw [hi]
  simp only [List.append_nil]

theorem read_escape (h : escaped? e = some d) :
    read true (.inline blanks) (('\\' : CodePoint) :: e :: rest) =
      emit (blanks ++ [d]) (read true (.inline []) rest) := by
  rw [read_backslash, read_escaped, h]
  simp only [emit_emit]

theorem read_digit {left value n : Nat} (hn : n < 16) (hl : 1 < left) :
    read true (.digits left value) (CodePoint.ofChar (Nat.digitChar n) :: rest) =
      read true (.digits (left - 1) (value * 16 + n)) rest := by
  rw [read_digits, CodePoint.digitValue?_digitChar n hn]
  simp only [if_neg (Nat.not_le.2 hn), if_neg (Nat.not_le.2 hl)]

theorem read_lastDigit {value n : Nat} (hn : n < 16) (hc : c.val = value * 16 + n) :
    read true (.digits 1 value) (CodePoint.ofChar (Nat.digitChar n) :: rest) =
      emit [c] (read true (.inline []) rest) := by
  have ho : CodePoint.ofNat? (value * 16 + n) = some c := by
    rw [← hc]
    exact dif_pos c.isLt
  rw [read_digits, CodePoint.digitValue?_digitChar n hn]
  simp only [if_neg (Nat.not_le.2 hn), Nat.le_refl, if_true, ho]

theorem read_escapeUnit (h : c.val < 0x10000) :
    read true (.inline blanks) (Json.escapeUnit c.val ++ rest) =
      emit (blanks ++ [c]) (read true (.inline []) rest) := by
  have hm (m : Nat) : m % 16 < 16 := Nat.mod_lt m (by decide)
  have hu : Json.escapeUnit c.val ++ rest =
      (('\\' : CodePoint) :: ('u' : CodePoint) :: (Text.hex 4 c.val ++ rest) : Text) := rfl
  have hd : escaped? 'u' = none := by decide
  have hn : digitCount? 'u' = some 4 := rfl
  rw [hu, read_backslash, read_escaped, hd, hn, Text.hex_four]
  simp only [List.cons_append, List.nil_append]
  rw [read_digit (hm _) (by decide), read_digit (hm _) (by decide), read_digit (hm _) (by decide),
    read_lastDigit (hm _), emit_emit]
  omega

theorem escaped?_short (h : (c, e) ∈ Json.shortEscapes) :
    Wide.halvesOf c = [c] ∧ escaped? e = some c := by
  simp only [Json.shortEscapes, List.mem_cons, Prod.mk.injEq, List.not_mem_nil, or_false] at h
  rcases h with ⟨rfl, rfl⟩ | ⟨rfl, rfl⟩ | ⟨rfl, rfl⟩ | ⟨rfl, rfl⟩ | ⟨rfl, rfl⟩ | ⟨rfl, rfl⟩ |
    ⟨rfl, rfl⟩ <;> exact ⟨rfl, rfl⟩

theorem read_escapeOne (hc : c ≠ ' ') :
    read true (.inline blanks) (Json.escapeOne true c ++ rest) =
      emit (blanks ++ Wide.halvesOf c) (read true (.inline []) rest) := by
  have he := Json.escaped_escapeOne true c
  generalize Json.escapeOne true c = t at he ⊢
  cases he with
  | short h =>
    obtain ⟨hw, he⟩ := escaped?_short h
    rw [hw]
    exact read_escape he
  | control h => rw [read_escapeUnit (by omega), Wide.halvesOf_of_lt (by omega)]
  | unit _ _ h => rw [read_escapeUnit h, Wide.halvesOf_of_lt h]
  | pair _ h =>
    have := Wide.highUnit_lt c
    have := Wide.lowUnit_lt c
    rw [List.append_assoc, read_escapeUnit (by simp only [Wide.high]; omega),
      read_escapeUnit (by simp only [Wide.low]; omega), emit_emit, Wide.halvesOf_of_le h,
      List.append_assoc]
    rfl
  | plain h ha hs =>
    have hv := ha rfl
    have hw : isWhite c = false := by simp [isWhite, hc, hs ('\t', 't') (by decide)]
    have hb : isBreak c = false := by
      simp only [isBreak, Bool.or_eq_false_iff, decide_eq_false_iff_not]
      exact ⟨⟨⟨hs ('\n', 'n') (by decide), by omega⟩, by omega⟩, by omega⟩
    rw [Wide.halvesOf_of_lt (by omega)]
    exact read_plain hw hb (hs ('"', '"') (by decide)) (hs ('\\', '\\') (by decide))

end

/-- A scalar that is the ASCII form of a text. -/
theorem read_quoted (t blanks rest : Text) :
    read true (.inline blanks) (t.flatMap (Json.escapeOne true) ++ ('"' : CodePoint) :: rest) =
      .ok (blanks ++ Wide.halves t, rest) := by
  induction t generalizing blanks with
  | nil =>
    rw [List.flatMap_nil, List.nil_append, read_close]
    simp [Wide.halves]
  | cons c t ih =>
    rw [List.flatMap_cons, List.append_assoc, Wide.halves_cons]
    by_cases hc : c = ' '
    · subst hc
      have he : Json.escapeOne true ' ' = [(' ' : CodePoint)] := rfl
      have hh : Wide.halvesOf ' ' = [(' ' : CodePoint)] := rfl
      rw [he, hh, List.cons_append, List.nil_append, read_blank rfl, ih, List.append_assoc]
    · rw [read_escapeOne hc, ih, emit_ok, List.nil_append, List.append_assoc]

end ConnectionProfile.Yaml.Quoting
