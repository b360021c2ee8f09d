import ConnectionProfile.Yaml.Cursor
import ConnectionProfile.Yaml.Token

/-!
# Plain scalars

A plain scalar has no quotation marks. It ends at a colon before a gap, at a comment, at a line
that is indented too little, and inside brackets also at a bracket, a comma or a question mark.
-/

namespace ConnectionProfile.Yaml.Plain

def flowMarks : Text := ",?[]\x7b\x7d"

def flowClosers : Text := ",[]\x7b\x7d"

def endsAt (inFlow : Bool) (c : CodePoint) (next : Option CodePoint) : Bool :=
  isWhite c || isBreak c ||
  (c = ':' && (atGap next || (inFlow && next.any flowClosers.elem))) ||
  (inFlow && flowMarks.elem c)

/-- How many code points are read without a gap. -/
def chunk (inFlow : Bool) : Text → Nat
  | [] => 0
  | c :: rest => if endsAt inFlow c rest.head? then 0 else chunk inFlow rest + 1

/-- The line breaks after a first one, and how far they and the blanks around them go. There are
none when the document ends at one of them. -/
def breaksAfter : Text → Option Text × Nat
  | [] => (some [], 0)
  | c :: rest =>
    if c = ' ' then
      let (breaks, n) := breaksAfter rest
      (breaks, n + 1)
    else if isBreak c then
      if isDocumentBorder rest then (none, 1)
      else
        let (breaks, n) := breaksAfter rest
        (breaks.map (breakText c :: ·), n + 1)
    else (some [], 0)

structure Gap where
  /-- What the gap counts as. An empty text ends the scalar, and so does a missing one. -/
  text : Option Text
  cursor : Cursor
  hasBreak : Bool

/-- The blanks and line breaks after a chunk. -/
def gap (c : Cursor) : Gap :=
  let blanks := c.rest.takeWhile (· = (' ' : CodePoint))
  let c := c.skip blanks.length
  match c.peek with
  | none => ⟨some blanks, c, false⟩
  | some b =>
    if isBreak b then
      let c := c.next
      if isDocumentBorder c.rest then ⟨none, c, true⟩
      else
        let (breaks, n) := breaksAfter c.rest
        let first := breakText b
        let fold (breaks : Text) : Text :=
          if first ≠ '\n' then first :: breaks else if breaks = [] then " " else breaks
        ⟨breaks.map fold, c.skip n, true⟩
    else ⟨some blanks, c, false⟩

structure Result where
  text : Text
  cursor : Cursor
  /-- Whether a key may follow, because the scalar ends with its line. -/
  keyAllowed : Bool

/-- Reads chunk after chunk. `spaces` is the gap before the next chunk. -/
def read (inFlow : Bool) (indent : Int) : Nat → Cursor → (spaces : Text) → (keyAllowed : Bool) →
    Result
  | 0, c, _, keyAllowed => ⟨[], c, keyAllowed⟩
  | fuel + 1, c, spaces, keyAllowed =>
    let n := chunk inFlow c.rest
    if c.peek = some ('#' : CodePoint) ∨ n = 0 then ⟨[], c, keyAllowed⟩
    else
      let word := spaces ++ c.rest.take n
      let g := gap (c.skip n)
      match g.text with
      | none | some [] => ⟨word, g.cursor, g.hasBreak⟩
      | some t =>
        if g.cursor.peek = some ('#' : CodePoint) ∨ (!inFlow ∧ g.cursor.column < indent) then
          ⟨word, g.cursor, g.hasBreak⟩
        else
          let r := read inFlow indent fuel g.cursor t g.hasBreak
          ⟨word ++ r.text, r.cursor, r.keyAllowed⟩

end ConnectionProfile.Yaml.Plain
