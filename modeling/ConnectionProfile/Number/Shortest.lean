import ConnectionProfile.Number.Binary64
import ConnectionProfile.Text

/-!
# The shortest decimal of a number

Of all decimals that round to a number, the one with the fewest digits is written, and the
nearest of those.
-/

namespace ConnectionProfile.Binary64

/-- Floor of the decimal logarithm of `m * 2 ^ e`, for numbers in range. -/
def decimalExponent (m : Nat) (e : Int) : Int :=
  let scaled := ((m * Nat.pow 10 330) <<< e.toNat) >>> (-e).toNat
  ((Nat.toDigits 10 scaled).length : Int) - 331

/-- A decimal with `size` digits that rounds to `m * 2 ^ e`: one of the two next to it on the
grid of that many digits. -/
def decimalOfSize? (m : Nat) (e : Int) (size : Nat) : Option (Nat × Int) :=
  let k := decimalExponent m e - (size - 1)
  let value := ((4 * m) <<< (e - 2).toNat) * Nat.pow 10 (-k).toNat
  let gap := value / (4 * m)
  let step := Nat.pow 10 k.toNat <<< (2 - e).toNat
  let below := if m = leadingBit ∧ -1074 < e then gap else 2 * gap
  let above := 2 * gap
  let inside (d : Nat) : Bool :=
    if m % 2 = 0 then value ≤ d * step + below && d * step ≤ value + above
    else value < d * step + below && d * step < value + above
  let d := value / step
  match inside d, inside (d + 1) with
  | true, true =>
    if 2 * value < (2 * d + 1) * step ∨ (2 * value = (2 * d + 1) * step ∧ d % 2 = 0)
    then some (d, k) else some (d + 1, k)
  | true, false => some (d, k)
  | false, true => some (d + 1, k)
  | false, false => none

/-- Seventeen digits are enough for every number. -/
def shortest (m : Nat) (e : Int) : Nat × Int :=
  (((List.range 17).map (· + 1)).findSome? (decimalOfSize? m e)).getD (m, e)

def dropTrailingZeros (ds : Text) : Text :=
  (ds.reverse.dropWhile (· = ('0' : CodePoint))).reverse

def zeros (n : Nat) : Text := List.replicate n '0'

/-- Numbers from `0.0001` up to `10 ^ 16` are written positionally with at least one decimal,
all others with an exponent of at least two digits. -/
def layout (digits : Text) (exponent : Int) : Text :=
  let size := digits.length
  if -4 ≤ exponent ∧ exponent < 16 then
    if exponent < 0 then
      "0." ++ zeros (-exponent - 1).toNat ++ digits
    else
      let whole := exponent.toNat + 1
      let fraction : Text := if size ≤ whole then "0" else digits.drop whole
      (digits ++ zeros (whole - size)).take whole ++ "." ++ fraction
  else
    let fraction : Text := if size = 1 then [] else "." ++ digits.drop 1
    let sign : Text := if exponent < 0 then "-" else "+"
    digits.take 1 ++ fraction ++ "e" ++ sign ++ Text.padded 2 exponent.natAbs

def toText (x : Binary64) : Text :=
  match x.view with
  | .nan => "nan"
  | .infinite negative => if negative then "-inf" else "inf"
  | .finite negative m e =>
    let sign : Text := if negative then "-" else ""
    if m = 0 then sign ++ "0.0"
    else
      let (d, k) := shortest m e
      let digits := Text.ofNat d
      sign ++ layout (dropTrailingZeros digits) (k + (digits.length - 1 : Nat))

end ConnectionProfile.Binary64
