import ConnectionProfile.Json.Token
import ConnectionProfile.Proofs.Json.Escapes
import ConnectionProfile.Proofs.Text.Hex

/-!
# Quoted texts read back

What stands between quotation marks is read piece by piece. A text written in ASCII comes back with
its surrogate pairs joined, and every other text as it was.
-/

namespace ConnectionProfile.Json

/-- The pieces as which a code point is read back. -/
def piecesOf (ascii : Bool) (c : CodePoint) : List Piece :=
  if ascii ∧ 0x10000 ≤ c.val then [.numbered (Wide.high c), .numbered (Wide.low c)]
  else if (ascii ∧ 0x7F ≤ c.val) ∨
      c.val < 0x20 ∧ c ≠ '\n' ∧ c ≠ '\r' ∧ c ≠ '\t' ∧ c ≠ '\x0C' ∧ c ≠ '\x08' then [.numbered c]
  else [.plain c]

/-- A text as it is read back. -/
def readText (ascii : Bool) (t : Text) : Text := if ascii then Wide.joinPairs t else t

-- ---------------------------------------------------------------------------
-- One code point
-- ---------------------------------------------------------------------------

/-- The pieces of a text after further pieces. -/
def putPieces (ps : List Piece) : Option (List Piece × Text) → Option (List Piece × Text) :=
  Option.map fun (qs, rest) => (ps ++ qs, rest)

theorem putPieces_nil (r : Option (List Piece × Text)) : putPieces [] r = r := by
  cases r <;> rfl

theorem putPieces_putPieces (ps qs : List Piece) (r : Option (List Piece × Text)) :
    putPieces ps (putPieces qs r) = putPieces (ps ++ qs) r := by
  cases r <;> simp [putPieces]

section
variable {c d e : CodePoint} {rest : Text}

theorem pieces?_plain (hq : c ≠ '"') (hb : c ≠ '\\') (h : 0x20 ≤ c.val) :
    pieces? (c :: rest) = putPieces [.plain c] (pieces? rest) := by
  rw [pieces?.eq_def]
  simp only [if_neg hq, if_neg (Nat.not_lt.2 h), if_pos hb]
  cases pieces? rest <;> rfl

theorem pieces?_escape (hu : e ≠ 'u') (h : escape? e = some d) :
    pieces? ('\\' :: e :: rest) = putPieces [.plain d] (pieces? rest) := by
  rw [pieces?.eq_def]
  simp +decide only [if_neg hu, h, if_false, Option.bind_eq_bind, Option.bind_some]
  cases pieces? rest <;> rfl

theorem pieces?_numbered {h i j k : CodePoint}
    (hd : (Numeral.digits? 16 [h, i, j, k]).bind CodePoint.ofNat? = some d) :
    pieces? ('\\' :: 'u' :: h :: i :: j :: k :: rest) =
      putPieces [.numbered d] (pieces? rest) := by
  obtain ⟨n, hn, hd⟩ := Option.bind_eq_some_iff.1 hd
  rw [pieces?.eq_def]
  simp +decide only [if_true, if_false, hn, Option.bind_eq_bind, Option.bind_some, hd]
  cases pieces? rest <;> rfl

theorem pieces?_escapeUnit (h : c.val < 0x10000) :
    pieces? (escapeUnit c.val ++ rest) = putPieces [.numbered c] (pieces? rest) := by
  have hd := Text.digits?_hex_four h
  rw [Text.hex_four] at hd
  have hn : CodePoint.ofNat? c.val = some c := dif_pos c.isLt
  have hu : escapeUnit c.val ++ rest =
      (('\\' : CodePoint) :: ('u' : CodePoint) :: (Text.hex 4 c.val ++ rest) : Text) := rfl
  rw [hu, Text.hex_four]
  exact pieces?_numbered (by rw [hd, Option.bind_some, hn])

end

theorem piecesOf_short {ascii : Bool} {c e : CodePoint} (h : (c, e) ∈ shortEscapes) :
    piecesOf ascii c = [.plain c] ∧ e ≠ 'u' ∧ escape? e = some c := by
  simp only [shortEscapes, List.mem_cons, Prod.mk.injEq, List.not_mem_nil, or_false] at h
  rcases h with ⟨rfl, rfl⟩ | ⟨rfl, rfl⟩ | ⟨rfl, rfl⟩ | ⟨rfl, rfl⟩ | ⟨rfl, rfl⟩ | ⟨rfl, rfl⟩ |
    ⟨rfl, rfl⟩ <;> cases ascii <;> exact ⟨rfl, by decide, rfl⟩

theorem pieces?_escapeOne (ascii : Bool) (c : CodePoint) (rest : Text) :
    pieces? (escapeOne ascii c ++ rest) = putPieces (piecesOf ascii c) (pieces? rest) := by
  have he := escaped_escapeOne ascii c
  generalize escapeOne ascii c = t at he ⊢
  cases he with
  | short h =>
    obtain ⟨hp, hu, he⟩ := piecesOf_short h
    rw [hp]
    exact pieces?_escape hu he
  | control h hs =>
    rw [pieces?_escapeUnit (by omega), piecesOf, if_neg (by omega),
      if_pos (.inr ⟨h, hs ('\n', 'n') (by decide), hs ('\r', 'r') (by decide),
        hs ('\t', 't') (by decide), hs ('\x0C', 'f') (by decide), hs ('\x08', 'b') (by decide)⟩)]
  | unit ha h hl =>
    rw [pieces?_escapeUnit hl, piecesOf, if_neg (by omega), if_pos (.inl ⟨ha, h⟩)]
  | pair ha h =>
    have := Wide.highUnit_lt c
    have := Wide.lowUnit_lt c
    rw [List.append_assoc, pieces?_escapeUnit (by simp only [Wide.high]; omega),
      pieces?_escapeUnit (by simp only [Wide.low]; omega), putPieces_putPieces, piecesOf,
      if_pos ⟨ha, h⟩]
    rfl
  | plain h ha hs =>
    have hp : ¬((ascii = true ∧ 0x7F ≤ c.val) ∨
        c.val < 0x20 ∧ c ≠ '\n' ∧ c ≠ '\r' ∧ c ≠ '\t' ∧ c ≠ '\x0C' ∧ c ≠ '\x08') := by
      rintro (⟨h', hl⟩ | ⟨hl, -⟩)
      · have := ha h'
        omega
      · omega
    rw [piecesOf, if_neg fun hw => hp (.inl ⟨hw.1, by omega⟩), if_neg hp]
    exact pieces?_plain (hs ('"', '"') (by decide)) (hs ('\\', '\\') (by decide)) h

theorem pieces?_escapes (ascii : Bool) (t rest : Text) :
    pieces? (t.flatMap (escapeOne ascii) ++ rest) =
      putPieces (t.flatMap (piecesOf ascii)) (pieces? rest) := by
  induction t with
  | nil => exact (putPieces_nil _).symm
  | cons c t ih =>
    rw [List.flatMap_cons, List.flatMap_cons, List.append_assoc, pieces?_escapeOne, ih,
      putPieces_putPieces]

-- ---------------------------------------------------------------------------
-- Pieces joined
-- ---------------------------------------------------------------------------

/-- The first piece is the number of a low surrogate. -/
def startsLow : List Piece → Bool
  | .numbered d :: _ => d.isLowSurrogate
  | _ => false

theorem joinPieces_numbered {c : CodePoint} {ps : List Piece}
    (h : ¬(c.isHighSurrogate = true ∧ startsLow ps = true)) :
    joinPieces (.numbered c :: ps) = c :: joinPieces ps := by
  cases ps with
  | nil => rfl
  | cons p ps =>
    cases p with
    | plain d => rfl
    | numbered d =>
      rw [joinPieces, if_neg (by simpa [startsLow] using h)]

theorem joinPieces_pair {c d : CodePoint} {ps : List Piece} (hc : c.isHighSurrogate = true)
    (hd : d.isLowSurrogate = true) :
    joinPieces (.numbered c :: .numbered d :: ps) = Wide.pair c d :: joinPieces ps := by
  rw [joinPieces, if_pos (by simp [hc, hd])]

/-- A code point is read back as itself when it is not the first half of a pair. -/
theorem joinPieces_piecesOf {ascii : Bool} {c : CodePoint} {ps : List Piece}
    (h : ¬(c.isHighSurrogate = true ∧ startsLow ps = true)) :
    joinPieces (piecesOf ascii c ++ ps) = c :: joinPieces ps := by
  unfold piecesOf
  split
  case isTrue hw =>
    rw [List.cons_append, List.cons_append, List.nil_append,
      joinPieces_pair (Wide.isHighSurrogate_high c) (Wide.isLowSurrogate_low c),
      Wide.pair_high_low hw.2]
  case isFalse =>
    split
    · exact joinPieces_numbered h
    · rfl

theorem startsLow_piecesOf {ascii : Bool} {c : CodePoint} {ps : List Piece}
    (h : startsLow (piecesOf ascii c ++ ps) = true) : ascii = true ∧ c.isLowSurrogate = true := by
  unfold piecesOf at h
  split at h
  case isTrue => exact absurd h (by simp [startsLow, Wide.isLowSurrogate_high])
  case isFalse =>
    split at h
    case isTrue hn =>
      have hc : c.isLowSurrogate = true := h
      refine ⟨?_, hc⟩
      rw [CodePoint.isLowSurrogate, CodePoint.between_iff] at hc
      exact (hn.resolve_right (by omega)).1
    case isFalse => cases h

theorem piecesOf_of_isHighSurrogate {c : CodePoint} (h : c.isHighSurrogate = true) :
    piecesOf true c = [.numbered c] := by
  rw [CodePoint.isHighSurrogate, CodePoint.between_iff] at h
  rw [piecesOf, if_neg (by omega), if_pos (.inl ⟨rfl, by omega⟩)]

theorem piecesOf_of_isLowSurrogate {c : CodePoint} (h : c.isLowSurrogate = true) :
    piecesOf true c = [.numbered c] := by
  rw [CodePoint.isLowSurrogate, CodePoint.between_iff] at h
  rw [piecesOf, if_neg (by omega), if_pos (.inl ⟨rfl, by omega⟩)]

theorem joinPieces_ascii (t : Text) :
    joinPieces (t.flatMap (piecesOf true)) = Wide.joinPairs t := by
  fun_induction Wide.joinPairs t with
  | case1 => rfl
  | case2 c =>
    rw [List.flatMap_cons, joinPieces_piecesOf (by simp [startsLow])]
    rfl
  | case3 c d t h ih =>
    rw [Bool.and_eq_true] at h
    rw [List.flatMap_cons, List.flatMap_cons, piecesOf_of_isHighSurrogate h.1,
      piecesOf_of_isLowSurrogate h.2, ← ih]
    exact joinPieces_pair h.1 h.2
  | case4 c d t h ih =>
    rw [List.flatMap_cons, joinPieces_piecesOf, ih]
    -- A pair forms only where both surrogates are written by their numbers.
    rw [List.flatMap_cons]
    rintro ⟨hc, hd⟩
    exact h (by rw [hc, (startsLow_piecesOf hd).2]; rfl)

theorem joinPieces_unicode (t : Text) : joinPieces (t.flatMap (piecesOf false)) = t := by
  induction t with
  | nil => rfl
  | cons c t ih =>
    rw [List.flatMap_cons, joinPieces_piecesOf, ih]
    rintro ⟨-, hs⟩
    cases t with
    | nil => cases hs
    | cons d t => exact Bool.false_ne_true (startsLow_piecesOf hs).1

/-- The pieces of a quoted text, up to its closing mark, make the text as it is read back. -/
theorem pieces?_quoted (ascii : Bool) (t rest : Text) :
    ∃ ps, pieces? (t.flatMap (escapeOne ascii) ++ ('"' : CodePoint) :: rest) =
        some (ps, rest) ∧
      joinPieces ps = readText ascii t := by
  refine ⟨t.flatMap (piecesOf ascii), ?_, ?_⟩
  · rw [pieces?_escapes, pieces?.eq_def]
    simp [putPieces]
  · cases ascii with
    | true => exact joinPieces_ascii t
    | false => exact joinPieces_unicode t

end ConnectionProfile.Json
