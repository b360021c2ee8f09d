import ConnectionProfile.Text.Wide

/-!
# Encodings of JSON text

The encoding shows in a byte order mark, and without one in the place of the zeros among the
first octets, since a JSON text starts with an ASCII character.
-/

namespace ConnectionProfile.Json

inductive Encoding where
  | utf8
  | utf16 (order : Wide.ByteOrder)
  | utf32 (order : Wide.ByteOrder)
  deriving DecidableEq, Repr

namespace Encoding

/-- The byte order marks. The longer ones come first, for one of them starts with a shorter. -/
def marks : List (Octets × Encoding) :=
  [([0x00, 0x00, 0xFE, 0xFF], .utf32 .big), ([0xFF, 0xFE, 0x00, 0x00], .utf32 .little),
    ([0xFE, 0xFF], .utf16 .big), ([0xFF, 0xFE], .utf16 .little), ([0xEF, 0xBB, 0xBF], .utf8)]

def ofZeros : Octets → Encoding
  | [a, b] => if a = 0 then .utf16 .big else if b = 0 then .utf16 .little else .utf8
  | a :: b :: c :: d :: _ =>
    if a = 0 then (if b = 0 then .utf32 .big else .utf16 .big)
    else if b = 0 then (if c = 0 ∧ d = 0 then .utf32 .little else .utf16 .little)
    else .utf8
  | _ => .utf8

/-- The encoding, and the octets that follow the byte order mark. -/
def detect (bs : Octets) : Encoding × Octets :=
  match marks.find? fun (mark, _) => mark.isPrefixOf bs with
  | some (mark, encoding) => (encoding, bs.drop mark.length)
  | none => (ofZeros bs, bs)

def decode? : Encoding → Octets → Option Text
  | .utf8 => Utf8.decode? .passed
  | .utf16 order => Wide.decode16? order
  | .utf32 order => Wide.decode32? order

end Encoding

def textOfOctets? (bs : Octets) : Option Text :=
  let (encoding, body) := Encoding.detect bs
  encoding.decode? body

end ConnectionProfile.Json
