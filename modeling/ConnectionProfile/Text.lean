/-!
# Text

A text is a list of code points. Surrogates are code points as well: JSON can write one
without its partner, so `String` has too few values.
-/

namespace ConnectionProfile

abbrev CodePoint := Fin 0x110000

abbrev Text := List CodePoint

namespace CodePoint

def ofChar (c : Char) : CodePoint :=
  ⟨c.toNat, by rcases c.valid with h | h <;> (show c.val.toNat < _; omega)⟩

instance : Coe Char CodePoint := ⟨ofChar⟩

/-- The code point with the number of an octet. -/
def ofOctet (b : UInt8) : CodePoint :=
  ⟨b.toNat, Nat.lt_of_lt_of_le b.toNat_lt (by decide)⟩

def ofNat? (n : Nat) : Option CodePoint :=
  if h : n < 0x110000 then some ⟨n, h⟩ else none

/-- The character of a code point. Surrogates have none and show as the replacement character. -/
def toChar (c : CodePoint) : Char :=
  if h : c.val.isValidChar then .ofNatAux c.val h else '\uFFFD'

def between (low high : Nat) (c : CodePoint) : Bool :=
  low ≤ c.val && c.val ≤ high

def isHighSurrogate (c : CodePoint) : Bool := c.between 0xD800 0xDBFF

def isLowSurrogate (c : CodePoint) : Bool := c.between 0xDC00 0xDFFF

def isSurrogate (c : CodePoint) : Bool := c.between 0xD800 0xDFFF

def isAscii (c : CodePoint) : Bool := c.val < 0x80

def isAsciiDigit (c : CodePoint) : Bool := c.between 0x30 0x39

def isAsciiUpper (c : CodePoint) : Bool := c.between 0x41 0x5A

def isAsciiLower (c : CodePoint) : Bool := c.between 0x61 0x7A

def isAsciiLetter (c : CodePoint) : Bool := c.isAsciiUpper || c.isAsciiLower

def isAsciiAlphanumeric (c : CodePoint) : Bool := c.isAsciiLetter || c.isAsciiDigit

/-- Lowers ASCII capitals and leaves every other code point as it is. -/
def lowerAscii (c : CodePoint) : CodePoint :=
  if h : c.isAsciiUpper then
    ⟨c.val + 0x20, by
      simp only [isAsciiUpper, between, Bool.and_eq_true, decide_eq_true_eq] at h
      omega⟩
  else c

/-- Lifts small ASCII letters to capitals and leaves every other code point as it is. -/
def upperAscii (c : CodePoint) : CodePoint :=
  if c.isAsciiLower then ⟨c.val - 0x20, Nat.lt_of_le_of_lt (Nat.sub_le ..) c.isLt⟩ else c

/-- What an ASCII digit or letter counts for in bases up to thirty-six. -/
def digitValue? (c : CodePoint) : Option Nat :=
  if c.isAsciiDigit then some (c.val - 0x30)
  else if c.isAsciiUpper then some (c.val - 0x41 + 10)
  else if c.isAsciiLower then some (c.val - 0x61 + 10)
  else none

def isHexDigit (c : CodePoint) : Bool :=
  match c.digitValue? with
  | some d => d < 16
  | none => false

end CodePoint

namespace Text

def ofString (s : String) : Text := s.toList.map CodePoint.ofChar

instance : Coe String Text := ⟨ofString⟩

def toString (t : Text) : String := .ofList (t.map CodePoint.toChar)

def ofNat (n : Nat) : Text := ofString n.repr

def ofInt : Int → Text
  | .ofNat n => ofNat n
  | .negSucc n => "-" ++ ofNat (n + 1)

/-- The last `width` digits of `n` in base sixteen. -/
def hex : Nat → Nat → Text
  | 0, _ => []
  | width + 1, n =>
    hex width (n / 16) ++ [CodePoint.ofChar (Nat.digitChar (n % 16))]

/-- At least `width` decimal digits, filled up with zeros. -/
def padded (width n : Nat) : Text :=
  let digits := ofNat n
  List.replicate (width - digits.length) ('0' : CodePoint) ++ digits

/-- A text is well formed Unicode when it has no surrogate. -/
def isUnicode (t : Text) : Bool := t.all fun c => !c.isSurrogate

def isAscii (t : Text) : Bool := t.all CodePoint.isAscii

def lowerAscii (t : Text) : Text := t.map CodePoint.lowerAscii

def upperAscii (t : Text) : Text := t.map CodePoint.upperAscii

/-- Texts are ordered by their first code points that differ. -/
def le : Text → Text → Bool
  | [], _ => true
  | _ :: _, [] => false
  | c :: s, d :: t => if c = d then le s t else c.val < d.val

/-- What follows `lead`, if the text starts with it. -/
def after? : Text → (lead : Text) → Option Text
  | t, [] => some t
  | [], _ :: _ => none
  | c :: t, a :: lead => if c = a then after? t lead else none

theorem after?_eq_some {t lead rest : Text} : t.after? lead = some rest ↔ t = lead ++ rest := by
  fun_induction after? t lead <;> simp_all

def startsWith (t lead : Text) : Bool := (t.after? lead).isSome

/-- The parts before and after the first `sep`. -/
def cut? (sep : CodePoint) : Text → Option (Text × Text)
  | [] => none
  | c :: t => if c = sep then some ([], t) else (cut? sep t).map fun (a, b) => (c :: a, b)

theorem cut?_eq_some {sep : CodePoint} {t a b : Text} :
    t.cut? sep = some (a, b) ↔ t = a ++ sep :: b ∧ sep ∉ a := by
  induction t generalizing a with
  | nil => simp [cut?]
  | cons c t ih =>
    by_cases h : c = sep
    · subst h
      cases a with
      | nil => simp [cut?, eq_comm]
      | cons d a =>
        simp only [cut?, if_true, Option.some.injEq, Prod.mk.injEq, List.cons_append,
          List.cons.injEq, List.mem_cons, not_or]
        constructor
        · intro h
          cases h.1
        · intro h
          exact absurd h.1.1 h.2.1
    · cases a with
      | nil => simp [cut?, h]
      | cons d a =>
        simp only [cut?, if_neg h, Option.map_eq_some_iff, Prod.mk.injEq, List.cons_append,
          List.cons.injEq, List.mem_cons, not_or]
        constructor
        · rintro ⟨⟨x, y⟩, hx, ⟨rfl, rfl⟩, rfl⟩
          obtain ⟨rfl, hm⟩ := ih.1 hx
          exact ⟨⟨rfl, rfl⟩, Ne.symm h, hm⟩
        · rintro ⟨⟨rfl, rfl⟩, _, hm⟩
          exact ⟨(a, b), ih.2 ⟨rfl, hm⟩, ⟨rfl, rfl⟩, rfl⟩

theorem cut?_eq_none {sep : CodePoint} {t : Text} : t.cut? sep = none ↔ sep ∉ t := by
  induction t with
  | nil => simp [cut?]
  | cons c t ih =>
    by_cases h : c = sep
    · simp [cut?, h]
    · simp [cut?, h, ih, Ne.symm h]

/-- The parts between the separators: one more than there are separators. -/
def parts (sep : CodePoint) : Text → List Text
  | [] => [[]]
  | c :: t =>
    if c = sep then [] :: parts sep t
    else match parts sep t with
      | [] => [[c]]
      | p :: ps => (c :: p) :: ps

def joinWith (sep : Text) : List Text → Text
  | [] => []
  | [t] => t
  | t :: rest => t ++ sep ++ joinWith sep rest

def withoutFinal? (c : CodePoint) (t : Text) : Option Text :=
  if t.getLast? = some c then some t.dropLast else none

theorem withoutFinal?_eq_some {c : CodePoint} {t u : Text} :
    t.withoutFinal? c = some u ↔ t = u ++ [c] := by
  unfold withoutFinal?
  constructor
  · intro h
    split at h
    case isTrue hl =>
      obtain ⟨ys, rfl⟩ := List.getLast?_eq_some_iff.1 hl
      cases h
      simp
    case isFalse => cases h
  · rintro rfl
    simp

/-- The text without its final `c`, or as it is. -/
def withoutFinal (c : CodePoint) (t : Text) : Text := (withoutFinal? c t).getD t

end Text

end ConnectionProfile
