import ConnectionProfile.Text.Utf8

/-!
# Padding of messages

Both digests work on blocks of sixteen words. A message is filled up with one set bit, zeros and
its length in bits.
-/

namespace ConnectionProfile.Digest

def bigEndian (width n : Nat) : Octets :=
  (List.range width).reverse.map fun i => (n >>> (8 * i)).toUInt8

def pad (message : Octets) : Octets :=
  let zeros := (119 - message.length % 64) % 64
  message ++ [0x80] ++ List.replicate zeros 0 ++ bigEndian 8 (message.length * 8)

def words : Octets → List UInt32
  | a :: b :: c :: d :: rest =>
    (((a.toUInt32 <<< 8 ||| b.toUInt32) <<< 8 ||| c.toUInt32) <<< 8 ||| d.toUInt32) :: words rest
  | _ => []

def blocks (message : Octets) : List (List UInt32) :=
  let ws := words (pad message)
  (List.range (ws.length / 16)).map fun i => (ws.drop (16 * i)).take 16

def rotateLeft (x n : UInt32) : UInt32 := x <<< n ||| x >>> (32 - n)

def rotateRight (x n : UInt32) : UInt32 := x >>> n ||| x <<< (32 - n)

end ConnectionProfile.Digest
