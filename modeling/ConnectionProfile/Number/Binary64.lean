/-!
# Binary floating point numbers

A number is its sixty-four bits. All arithmetic is exact on naturals and rounds once at the
end, to the nearest number and to the even one of two equally near.
-/

namespace ConnectionProfile

structure Binary64 where
  bits : UInt64
  deriving DecidableEq, Repr

namespace Binary64

inductive View where
  | nan
  | infinite (negative : Bool)
  /-- The value `m * 2 ^ e`. -/
  | finite (negative : Bool) (m : Nat) (e : Int)
  deriving DecidableEq, Repr

/-- The bit of the sign. -/
def signBit : Nat := 1 <<< 63

/-- The bit above the fraction: one in the exponent field, and the leading bit of a significand. -/
def leadingBit : Nat := 1 <<< 52

def maxExponent : Nat := 2047

def view (x : Binary64) : View :=
  let n := x.bits.toNat
  let negative := signBit ≤ n
  let exponent : Nat := n % signBit / leadingBit
  let fraction : Nat := n % leadingBit
  if exponent = maxExponent then
    if fraction = 0 then .infinite negative else .nan
  else if exponent = 0 then .finite negative fraction (-1074)
  else .finite negative (leadingBit + fraction) ((exponent : Int) - 1075)

def ofMagnitude (negative : Bool) (magnitude : Nat) : Binary64 :=
  ⟨(magnitude + if negative then signBit else 0).toUInt64⟩

def zero (negative : Bool) : Binary64 := ofMagnitude negative 0

/-- The magnitude of infinity, above all finite ones. -/
def infiniteMagnitude : Nat := maxExponent * leadingBit

def infinity (negative : Bool) : Binary64 := ofMagnitude negative infiniteMagnitude

/-- Of the values that are no numbers, the one with number `n`. -/
def nanNumber (n : Nat) : Binary64 := ofMagnitude false (infiniteMagnitude + leadingBit / 2 + n)

def nan : Binary64 := nanNumber 0

/-- The quotient rounded to the nearest natural, to the even one of two. -/
def roundQuotient (num den : Nat) : Nat :=
  let q := num / den
  let r := num % den
  if den < 2 * r ∨ (den = 2 * r ∧ q % 2 = 1) then q + 1 else q

/-- The number nearest to `num / den`. The significand has fifty-three bits, fewer only at the
least exponent. -/
def ofRatio (negative : Bool) (num den : Nat) : Binary64 :=
  if num = 0 then zero negative
  else
    let scaled (e : Int) : Nat × Nat := (num <<< (-e).toNat, den <<< e.toNat)
    let low : Int := max ((num.log2 : Int) - den.log2 - 53) (-1074)
    let e := if (scaled low).1 / (scaled low).2 < 2 * leadingBit then low else low + 1
    let m := roundQuotient (scaled e).1 (scaled e).2
    let magnitude := if m < leadingBit then m else (e + 1074).toNat * leadingBit + m
    if magnitude < infiniteMagnitude then ofMagnitude negative magnitude else infinity negative

/-- The number nearest to `m * 10 ^ e`. Exponents far out of range are settled first. -/
def ofDecimal (negative : Bool) (m : Nat) (e : Int) : Binary64 :=
  let size : Int := (Nat.toDigits 10 m).length
  if m = 0 ∨ size + e < -330 then zero negative
  else if 310 < size + e then infinity negative
  else ofRatio negative (m * Nat.pow 10 e.toNat) (Nat.pow 10 (-e).toNat)

def ofNat (n : Nat) : Binary64 := ofRatio false n 1

def isNan (x : Binary64) : Bool := x.view = .nan

def isInfinite (x : Binary64) : Bool :=
  match x.view with
  | .infinite _ => true
  | _ => false

def neg (x : Binary64) : Binary64 :=
  if x = nan then x else ⟨x.bits ^^^ 0x8000000000000000⟩

def mul (x y : Binary64) : Binary64 :=
  match x.view, y.view with
  | .finite a m d, .finite b n e =>
    ofRatio (a != b) ((m * n) <<< (d + e).toNat) (1 <<< (-(d + e)).toNat)
  | .infinite a, .infinite b => infinity (a != b)
  | .infinite a, .finite b n _ => if n = 0 then nan else infinity (a != b)
  | .finite a m _, .infinite b => if m = 0 then nan else infinity (a != b)
  | .nan, _ | _, .nan => nan

/-- The signed integer `m * 2 ^ e` counts in units of `2 ^ -1074`. -/
def units (negative : Bool) (m : Nat) (e : Int) : Int :=
  let n : Nat := m <<< (e + 1074).toNat
  if negative then -n else n

/-- How many units make one. -/
def unitsOfOne : Nat := 1 <<< 1074

def add (x y : Binary64) : Binary64 :=
  match x.view, y.view with
  | .finite a m d, .finite b n e =>
    let sum := units a m d + units b n e
    if sum = 0 then zero (a && b) else ofRatio (sum < 0) sum.natAbs unitsOfOne
  | .infinite a, .infinite b => if a = b then x else nan
  | .infinite _, .finite .. => x
  | .finite .., .infinite _ => y
  | .nan, _ | _, .nan => nan

/-- The integer that the number is equal to, if it is one. -/
def toInt? (x : Binary64) : Option Int :=
  match x.view with
  | .finite negative m e =>
    let n := m <<< e.toNat
    let den := 1 <<< (-e).toNat
    if n % den = 0 then
      let i : Int := (n / den : Nat)
      some (if negative then -i else i)
    else none
  | _ => none

end Binary64

end ConnectionProfile
