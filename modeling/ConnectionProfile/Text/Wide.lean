import ConnectionProfile.Text.Utf8

/-!
# Sixteen and thirty-two bit units

Two surrogate units that form a pair are one code point in the sixteen bit encoding. A surrogate
without its partner stands for itself.
-/

namespace ConnectionProfile.Wide

inductive ByteOrder where
  | little
  | big
  deriving DecidableEq, Repr

def highUnit (c : CodePoint) : Nat := 0xD800 + (c.val - 0x10000) / 0x400

def lowUnit (c : CodePoint) : Nat := 0xDC00 + (c.val - 0x10000) % 0x400

/-- The code point of a surrogate pair. -/
def pair (high low : CodePoint) : CodePoint :=
  ⟨0x10000 + high.val % 0x400 * 0x400 + low.val % 0x400, by omega⟩

/-- Joins every high surrogate with a low one that follows it directly. -/
def joinPairs : Text → Text
  | [] => []
  | [c] => [c]
  | c :: d :: rest =>
    if c.isHighSurrogate && d.isLowSurrogate then pair c d :: joinPairs rest
    else c :: joinPairs (d :: rest)

def units16? (order : ByteOrder) : Octets → Option Text
  | [] => some []
  | [_] => none
  | a :: b :: rest => do
    let n := match order with
      | .little => b.toNat * 0x100 + a.toNat
      | .big => a.toNat * 0x100 + b.toNat
    return (← CodePoint.ofNat? n) :: (← units16? order rest)

def decode16? (order : ByteOrder) (bs : Octets) : Option Text :=
  (units16? order bs).map joinPairs

def decode32? (order : ByteOrder) : Octets → Option Text
  | [] => some []
  | a :: b :: c :: d :: rest => do
    let n := match order with
      | .little => ((d.toNat * 0x100 + c.toNat) * 0x100 + b.toNat) * 0x100 + a.toNat
      | .big => ((a.toNat * 0x100 + b.toNat) * 0x100 + c.toNat) * 0x100 + d.toNat
    return (← CodePoint.ofNat? n) :: (← decode32? order rest)
  | _ => none

end ConnectionProfile.Wide
