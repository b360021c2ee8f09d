import ConnectionProfile.Text.Utf8
import ConnectionProfile.Yaml.Cursor
import ConnectionProfile.Yaml.Token

/-!
# Loading YAML

A stored text is loaded in pieces of 4096 code points, the first two at once, and its octets are
decoded in blocks. A piece that is no text counts only when it is loaded: as long as the pieces
before it have all that the reader looks at, what is wrong with them comes first.
-/

namespace ConnectionProfile.Yaml

inductive Loaded where
  | whole (t : Text)
  /-- The pieces before the first that is no text, and what is wrong with that one. -/
  | upTo (t : Text) (fault : Fault)

namespace Loaded

def pieceSize : Nat := 4096

def leastBlockSize : Nat := 8192

/-- Every line ends in one newline. -/
def normalizeLines : Text → Text
  | [] => []
  | [c] => if c = '\r' then "\n" else [c]
  | c :: d :: rest =>
    if c = '\r' then
      if d = '\n' then normalizeLines (d :: rest) else '\n' :: normalizeLines (d :: rest)
    else c :: normalizeLines (d :: rest)

/-- The lines of a text that may go on. A carriage return at its end is not settled. -/
def settledLines (t : Text) : Text := normalizeLines (t.withoutFinal '\r')

/-- The pieces before the one that holds the code point at `n`. -/
def piecesBefore (t : Text) (n : Nat) : Text :=
  let size := n / pieceSize * pieceSize
  if size < 2 * pieceSize then [] else t.take size

/-- How many octets the code point has that starts with one. -/
def octetCount (b : UInt8) : Nat :=
  if b.toNat < 0xC2 then 1
  else if b.toNat < 0xE0 then 2
  else if b.toNat < 0xF0 then 3
  else if b.toNat < 0xF5 then 4
  else 1

/-- Whether more octets may complete a code point. -/
def isIncomplete : Octets → Bool
  | [] => true
  | b :: rest => rest.length + 1 < octetCount b && rest.all fun b => (Utf8.tail? b).isSome

/-- The text of octets that may end within a code point, and the octets of that one. -/
def decodeStart? (bs : Octets) : Option (Text × Octets) :=
  (List.range 4).findSome? fun n =>
    let size := bs.length - n
    if isIncomplete (bs.drop size) then
      (Utf8.decode? .refused (bs.take size)).map (·, bs.drop size)
    else none

/-- The text of the blocks before the first that is not UTF-8. A block has room for what is missing
from a piece, if it has as many octets per code point as the block before. -/
def decodedBlocks : (fuel : Nat) → (t : Text) → (octets points : Nat) → (started rest : Octets) →
    Text
  | 0, t, _, _, _, _ | _, t, _, _, _, [] => t
  | fuel + 1, t, octets, points, started, rest =>
    let had := (settledLines t).length
    let missing := pieceSize - had % pieceSize
    let block := rest.take (max leastBlockSize (missing * max octets points / points))
    match decodeStart? (started ++ block) with
    | none => t
    | some (u, started) =>
      let gained := (settledLines (t ++ u)).length - had
      let octets := if gained = 0 then 1 else block.length
      decodedBlocks fuel (t ++ u) octets (max gained 1) started (rest.drop block.length)

/-- A loaded text, unless one of its pieces holds what a YAML text may not. -/
def checked (t : Text) (loaded : Loaded) : Loaded :=
  match t.findIdx? (!isPrintable ·) with
  | none => loaded
  | some n => .upTo (piecesBefore t n) .malformed

def ofOctets (content : Octets) : Loaded :=
  match Utf8.decode? .refused content with
  | some t => checked (normalizeLines t) (.whole (normalizeLines t))
  | none =>
    let had := settledLines (decodedBlocks (content.length + 1) [] 1 1 [] content)
    let t := piecesBefore had had.length
    checked t (.upTo t .notUnicode)

end Loaded

end ConnectionProfile.Yaml
