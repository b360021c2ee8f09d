import ConnectionProfile.Digest

/-!
# SHA-1

The secure hash of 160 bits.
-/

namespace ConnectionProfile.Digest.Sha1

structure State where
  a : UInt32
  b : UInt32
  c : UInt32
  d : UInt32
  e : UInt32

def State.initial : State := ⟨0x67452301, 0xEFCDAB89, 0x98BADCFE, 0x10325476, 0xC3D2E1F0⟩

def State.add (s t : State) : State :=
  ⟨s.a + t.a, s.b + t.b, s.c + t.c, s.d + t.d, s.e + t.e⟩

def State.toOctets (s : State) : Octets :=
  [s.a, s.b, s.c, s.d, s.e].flatMap fun x => bigEndian 4 x.toNat

/-- Eighty words; each new one mixes four earlier ones. -/
def schedule (block : List UInt32) : Array UInt32 :=
  (List.range 64).foldl (fun w i =>
    w.push (rotateLeft
      (w.getD (i + 13) 0 ^^^ w.getD (i + 8) 0 ^^^ w.getD (i + 2) 0 ^^^ w.getD i 0) 1))
    block.toArray

/-- The function and the constant of each round. -/
def mix (round : Nat) (b c d : UInt32) : UInt32 :=
  if round < 20 then ((b &&& c) ||| (~~~b &&& d)) + 0x5A827999
  else if round < 40 then (b ^^^ c ^^^ d) + 0x6ED9EBA1
  else if round < 60 then ((b &&& c) ||| (b &&& d) ||| (c &&& d)) + 0x8F1BBCDC
  else (b ^^^ c ^^^ d) + 0xCA62C1D6

def State.round (s : State) (i : Nat) (w : UInt32) : State :=
  ⟨rotateLeft s.a 5 + mix i s.b s.c s.d + s.e + w, s.a, rotateLeft s.b 30, s.c, s.d⟩

def State.compress (s : State) (block : List UInt32) : State :=
  s.add ((schedule block).toList.zipIdx.foldl (fun t (w, i) => t.round i w) s)

def hash (message : Octets) : Octets :=
  ((blocks message).foldl State.compress State.initial).toOctets

end ConnectionProfile.Digest.Sha1
