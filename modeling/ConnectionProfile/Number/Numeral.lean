import ConnectionProfile.Number.Binary64
import ConnectionProfile.Text.Classes

/-!
# Numerals

Blanks around a numeral are skipped, and digits of any script count. Integers with very many decimal
digits are neither read nor written.
-/

namespace ConnectionProfile.Numeral

/-- The value of a run of digits below `base`. -/
def digits? (base : Nat) (t : Text) : Option Nat :=
  if t.isEmpty then none
  else t.foldlM (fun n c => do
    let d ← c.digitValue?
    if d < base then some (n * base + d) else none) 0

def sign (t : Text) : Bool × Text :=
  match t with
  | [] => (false, [])
  | c :: rest => if c = '-' then (true, rest) else if c = '+' then (false, rest) else (false, t)

def tidy (t : Text) : Text := (t.trimBlanks).map CodePoint.asciiDigit

/-- The letter after a zero that announces a base. -/
def baseMark? : Nat → Option CodePoint
  | 2 => some 'b'
  | 8 => some 'o'
  | 16 => some 'x'
  | _ => none

def dropBaseMark (base : Nat) (t : Text) : Text :=
  match t with
  | z :: c :: rest =>
    if z = '0' ∧ some c.lowerAscii = baseMark? base then rest else t
  | _ => t

/-- The most digits that a decimal integer may have. -/
def maxDecimalDigits : Nat := 4300

-- Irreducible, since the power is not to be computed while a proof is elaborated.
@[irreducible] def writableLimit : Nat := Nat.pow 10 maxDecimalDigits

/-- Whether an integer has few enough digits to be written. -/
def isWritable (i : Int) : Bool := i.natAbs < writableLimit

def int? (base : Nat) (t : Text) : Option Int := do
  let (negative, body) := sign (tidy t)
  let body := dropBaseMark base body
  if base = 10 ∧ maxDecimalDigits < body.length then none
  let n ← digits? base body
  return if negative then -(n : Int) else n

/-- The exponent that may follow a decimal fraction. -/
def exponent? : Text → Option Int
  | [] => some 0
  | c :: rest => do
    if c.lowerAscii ≠ 'e' then none
    let (negative, ds) := sign rest
    let n ← digits? 10 ds
    return if negative then -(n : Int) else n

/-- An unsigned decimal fraction `m * 10 ^ e`. -/
def decimal? (t : Text) : Option (Nat × Int) := do
  let (whole, rest) := t.span CodePoint.isAsciiDigit
  let (fraction, rest) := match rest with
    | c :: more => if c = '.' then more.span CodePoint.isAsciiDigit else ([], rest)
    | [] => ([], [])
  let m ← digits? 10 (whole ++ fraction)
  let e ← exponent? rest
  return (m, e - fraction.length)

def float? (t : Text) : Option Binary64 := do
  let (negative, body) := sign (tidy t)
  let name := body.lowerAscii
  if name = "inf" ∨ name = "infinity" then return Binary64.infinity negative
  if name = "nan" then return Binary64.nan
  let (m, e) ← decimal? body
  return Binary64.ofDecimal negative m e

end ConnectionProfile.Numeral
