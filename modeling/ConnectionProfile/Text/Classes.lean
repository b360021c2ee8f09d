import ConnectionProfile.Text

/-!
# Blanks and decimal digits

Both follow version 14 of Unicode and go well beyond ASCII.
-/

namespace ConnectionProfile

namespace CodePoint

def isBlank (c : CodePoint) : Bool :=
  c.between 0x09 0x0D || c.between 0x1C 0x20 || c.val = 0x85 || c.val = 0xA0 || c.val = 0x1680 ||
  c.between 0x2000 0x200A || c.between 0x2028 0x2029 || c.val = 0x202F || c.val = 0x205F ||
  c.val = 0x3000

/-- The code points for zero. The other digits of a script follow its zero in order. -/
def zeros : List Nat := [
  0x30, 0x660, 0x6F0, 0x7C0, 0x966, 0x9E6, 0xA66, 0xAE6, 0xB66, 0xBE6, 0xC66, 0xCE6, 0xD66,
  0xDE6, 0xE50, 0xED0, 0xF20, 0x1040, 0x1090, 0x17E0, 0x1810, 0x1946, 0x19D0, 0x1A80, 0x1A90,
  0x1B50, 0x1BB0, 0x1C40, 0x1C50, 0xA620, 0xA8D0, 0xA900, 0xA9D0, 0xA9F0, 0xAA50, 0xABF0, 0xFF10,
  0x104A0, 0x10D30, 0x11066, 0x110F0, 0x11136, 0x111D0, 0x112F0, 0x11450, 0x114D0, 0x11650,
  0x116C0, 0x11730, 0x118E0, 0x11950, 0x11C50, 0x11D50, 0x11DA0, 0x16A60, 0x16AC0, 0x16B50,
  0x1D7CE, 0x1D7D8, 0x1D7E2, 0x1D7EC, 0x1D7F6, 0x1E140, 0x1E2F0, 0x1E950, 0x1FBF0]

/-- The code point with a decimal digit of any script replaced by the ASCII one. -/
def asciiDigit (c : CodePoint) : CodePoint :=
  if c.isAscii then c
  else match zeros.find? fun start => c.between start (start + 9) with
    | some start => ofChar (Nat.digitChar (c.val - start))
    | none => c

end CodePoint

namespace Text

def trimBlanks (t : Text) : Text :=
  ((t.dropWhile CodePoint.isBlank).reverse.dropWhile CodePoint.isBlank).reverse

end Text

end ConnectionProfile
