import ConnectionProfile.Text

/-!
# UTF-8

Octets of a text and back. Only the shortest form of a code point is read. Surrogates have
octets of the same shape; a reader takes them only where it is told to.
-/

namespace ConnectionProfile

abbrev Octets := List UInt8

namespace Utf8

inductive Surrogates where
  | refused
  | passed
  deriving DecidableEq, Repr

def encodeOne (c : CodePoint) : Octets :=
  let n := c.val
  if n < 0x80 then [n.toUInt8]
  else if n < 0x800 then [(0xC0 + n / 0x40).toUInt8, (0x80 + n % 0x40).toUInt8]
  else if n < 0x10000 then
    [(0xE0 + n / 0x1000).toUInt8, (0x80 + n / 0x40 % 0x40).toUInt8, (0x80 + n % 0x40).toUInt8]
  else
    [(0xF0 + n / 0x40000).toUInt8, (0x80 + n / 0x1000 % 0x40).toUInt8,
      (0x80 + n / 0x40 % 0x40).toUInt8, (0x80 + n % 0x40).toUInt8]

/-- The octets of a text without surrogates. -/
def encode? (t : Text) : Option Octets :=
  if t.isUnicode then some (t.flatMap encodeOne) else none

/-- The six bits that a continuation octet carries. -/
def tail? (b : UInt8) : Option Nat :=
  if 0x80 ≤ b.toNat ∧ b.toNat < 0xC0 then some (b.toNat - 0x80) else none

/-- The code point `n`, if it needs as many octets as were spent on it. -/
def shortest? (surrogates : Surrogates) (least n : Nat) : Option CodePoint := do
  let c ← CodePoint.ofNat? n
  if n < least ∨ (c.isSurrogate ∧ surrogates = .refused) then none else some c

def decode? (surrogates : Surrogates) : Octets → Option Text
  | [] => some []
  | a :: rest =>
    if a.toNat < 0x80 then do
      let c ← CodePoint.ofNat? a.toNat
      return c :: (← decode? surrogates rest)
    else match rest with
      | [] => none
      | b :: rest =>
        if 0xC0 ≤ a.toNat ∧ a.toNat < 0xE0 then do
          let c ← shortest? surrogates 0x80 ((a.toNat - 0xC0) * 0x40 + (← tail? b))
          return c :: (← decode? surrogates rest)
        else match rest with
          | [] => none
          | c :: rest =>
            if 0xE0 ≤ a.toNat ∧ a.toNat < 0xF0 then do
              let high := (a.toNat - 0xE0) * 0x40 + (← tail? b)
              let d ← shortest? surrogates 0x800 (high * 0x40 + (← tail? c))
              return d :: (← decode? surrogates rest)
            else match rest with
              | [] => none
              | d :: rest =>
                if 0xF0 ≤ a.toNat ∧ a.toNat < 0xF8 then do
                  let high := ((a.toNat - 0xF0) * 0x40 + (← tail? b)) * 0x40 + (← tail? c)
                  let e ← shortest? surrogates 0x10000 (high * 0x40 + (← tail? d))
                  return e :: (← decode? surrogates rest)
                else none

end Utf8

end ConnectionProfile
