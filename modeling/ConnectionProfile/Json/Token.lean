import ConnectionProfile.Number.Numeral
import ConnectionProfile.Text.Wide
import ConnectionProfile.Value

/-!
# JSON tokens

A text is cut into tokens without looking at their order. Where no token starts the list ends
with `junk`, so every text has its tokens.
-/

namespace ConnectionProfile.Json

inductive Token where
  | openList
  | closeList
  | openMap
  | closeMap
  | comma
  | colon
  | text (t : Text)
  | scalar (v : Value)
  /-- An integer with more digits than are read. -/
  | longInteger
  | junk

def isSpace (c : CodePoint) : Bool := c = ' ' || c = '\t' || c = '\n' || c = '\r'

/-- A code point between quotation marks, written as itself or by its number. -/
inductive Piece where
  | plain (c : CodePoint)
  | numbered (c : CodePoint)

def escape? (c : CodePoint) : Option CodePoint :=
  if c = '"' ∨ c = '\\' ∨ c = '/' then some c
  else if c = 'b' then some '\x08'
  else if c = 'f' then some '\x0C'
  else if c = 'n' then some '\n'
  else if c = 'r' then some '\r'
  else if c = 't' then some '\t'
  else none

/-- The pieces up to the closing quotation mark, and what follows it. -/
def pieces? : Text → Option (List Piece × Text)
  | [] => none
  | c :: rest =>
    if c = '"' then some ([], rest)
    else if c.val < 0x20 then none
    else if c ≠ '\\' then do
      let (ps, rest) ← pieces? rest
      return (.plain c :: ps, rest)
    else match rest with
      | [] => none
      | e :: rest =>
        if e = 'u' then
          match rest with
          | h :: i :: j :: k :: rest => do
            let d ← CodePoint.ofNat? (← Numeral.digits? 16 [h, i, j, k])
            let (ps, rest) ← pieces? rest
            return (.numbered d :: ps, rest)
          | _ => none
        else do
          let d ← escape? e
          let (ps, rest) ← pieces? rest
          return (.plain d :: ps, rest)

/-- A pair of surrogates that are both written by their numbers is one code point. -/
def joinPieces : List Piece → Text
  | [] => []
  | .plain c :: rest => c :: joinPieces rest
  | .numbered c :: .numbered d :: rest =>
    if c.isHighSurrogate && d.isLowSurrogate then Wide.pair c d :: joinPieces rest
    else c :: joinPieces (.numbered d :: rest)
  | .numbered c :: rest => c :: joinPieces rest

def digits (t : Text) : Text := t.takeWhile CodePoint.isAsciiDigit

/-- The decimals and the exponent at the start of the text, each empty when it is absent. -/
def fraction (t : Text) : Text :=
  match t with
  | c :: rest => if c = '.' ∧ digits rest ≠ [] then c :: digits rest else []
  | [] => []

def exponent (t : Text) : Text :=
  match t with
  | e :: rest =>
    if e.lowerAscii = 'e' then
      match rest with
      | s :: more =>
        if s = '+' ∨ s = '-' then
          if digits more ≠ [] then e :: s :: digits more else []
        else if digits rest ≠ [] then e :: digits rest else []
      | [] => []
    else []
  | [] => []

/-- The digits before the point: one zero, or a number that does not start with zero. -/
def whole (t : Text) : Text :=
  match t with
  | c :: _ => if c = '0' then [c] else digits t
  | [] => []

def numeral (negative : Bool) (digits fraction exponent : Text) : Token :=
  if fraction = [] ∧ exponent = [] then
    match Numeral.digits? 10 digits with
    | none => .junk
    | some n =>
      if Numeral.maxDecimalDigits < digits.length then .longInteger
      else .scalar (.int (if negative then -(n : Int) else n))
  else match Numeral.decimal? (digits ++ fraction ++ exponent) with
    | none => .junk
    | some (m, e) => .scalar (.float (Binary64.ofDecimal negative m e))

def number (negative : Bool) (t : Text) : Token × Text :=
  let w := whole t
  let afterWhole := t.drop w.length
  let f := fraction afterWhole
  let afterFraction := afterWhole.drop f.length
  let e := exponent afterFraction
  if w = [] then (.junk, []) else (numeral negative w f e, afterFraction.drop e.length)

/-- The words that stand for values. -/
def words : List (Text × Value) :=
  [("null", .null), ("true", .bool true), ("false", .bool false), ("NaN", .float .nan),
    ("Infinity", .float (.infinity false)), ("-Infinity", .float (.infinity true))]

def word? (t : Text) : Option (Value × Text) :=
  words.findSome? fun (w, v) => (t.after? w).map (v, ·)

def mark? (c : CodePoint) : Option Token :=
  if c = '[' then some .openList
  else if c = ']' then some .closeList
  else if c = '\x7b' then some .openMap
  else if c = '\x7d' then some .closeMap
  else if c = ',' then some .comma
  else if c = ':' then some .colon
  else none

/-- The token at the start of the text, and the text after it. -/
def lexeme (c : CodePoint) (rest : Text) : Token × Text :=
  match mark? c with
  | some mark => (mark, rest)
  | none =>
    if c = '"' then
      match pieces? rest with
      | some (ps, rest) => (.text (joinPieces ps), rest)
      | none => (.junk, [])
    else match word? (c :: rest) with
      | some (v, rest) => (.scalar v, rest)
      | none => if c = '-' then number true rest else number false (c :: rest)

theorem length_of_pieces? {t : Text} {ps : List Piece} {rest : Text}
    (h : pieces? t = some (ps, rest)) : rest.length < t.length := by
  fun_induction pieces? t generalizing ps rest <;>
    simp_all [Option.bind_eq_some_iff] <;> grind

theorem length_of_word? {t : Text} {v : Value} {rest : Text} (h : word? t = some (v, rest)) :
    rest.length < t.length := by
  obtain ⟨⟨w, u⟩, hm, hw⟩ := List.exists_of_findSome?_eq_some h
  obtain ⟨r, hr, he⟩ := Option.map_eq_some_iff.1 hw
  obtain ⟨rfl, rfl⟩ := Prod.mk.inj he
  have hw : 0 < w.length := by
    simp only [words, List.mem_cons, Prod.mk.injEq, List.not_mem_nil, or_false] at hm
    rcases hm with h | h | h | h | h | h <;> rw [h.1] <;> decide
  simp [Text.after?_eq_some.1 hr, hw]

theorem length_number (negative : Bool) (t : Text) :
    (number negative t).2.length ≤ t.length - 1 := by
  unfold number
  have : whole t ≠ [] → 0 < (whole t).length := List.length_pos_iff.2
  grind

theorem length_lexeme (c : CodePoint) (rest : Text) :
    (lexeme c rest).2.length ≤ rest.length := by
  have hp := @length_of_pieces? rest
  have hw := @length_of_word? (c :: rest)
  have hm := length_number true rest
  have hn := length_number false (c :: rest)
  unfold lexeme
  grind

def tokens : Text → List Token
  | [] => []
  | c :: rest =>
    if isSpace c then tokens rest
    else (lexeme c rest).1 :: tokens (lexeme c rest).2
termination_by t => t.length
decreasing_by
  · simp
  · have := length_lexeme c rest
    simp; omega

end ConnectionProfile.Json
