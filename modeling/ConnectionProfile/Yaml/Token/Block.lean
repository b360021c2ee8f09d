import ConnectionProfile.Yaml.Cursor
import ConnectionProfile.Yaml.Token

/-!
# Block scalars

A block scalar is a run of indented lines. A literal one keeps its line breaks; a folded one joins
lines that do not start with a blank.
-/

namespace ConnectionProfile.Yaml.Block

/-- What happens to the line breaks at the end. -/
inductive Chomping where
  | strip
  | clip
  | keep
  deriving DecidableEq

structure Header where
  chomping : Chomping
  increment : Option Nat

def chomping? (c : CodePoint) : Option Chomping :=
  if c = '+' then some .keep else if c = '-' then some .strip else none

def increment? (c : CodePoint) : Option Nat :=
  if c.isAsciiDigit then some (c.val - 0x30) else none

/-- The indicators after the mark of the scalar, each at most once and in any order. -/
def header (t : Text) : Except Fault (Header × Text) := do
  let (header, rest) : Header × Text := match t with
    | [] => (⟨.clip, none⟩, [])
    | c :: rest =>
      match chomping? c, increment? c with
      | some k, _ =>
        match rest with
        | [] => (⟨k, none⟩, [])
        | d :: more =>
          match increment? d with
          | some n => (⟨k, some n⟩, more)
          | none => (⟨k, none⟩, rest)
      | none, some n =>
        match rest with
        | [] => (⟨.clip, some n⟩, [])
        | d :: more =>
          match chomping? d with
          | some k => (⟨k, some n⟩, more)
          | none => (⟨.clip, some n⟩, rest)
      | none, none => (⟨.clip, none⟩, t)
  if header.increment = some 0 ∨ !atSpace rest.head? then throw .malformed
  return (header, rest)

/-- The rest of a line that may hold blanks and a comment only. -/
def emptyLine (t : Text) : Except Fault Text := do
  let t := t.dropWhile (· = (' ' : CodePoint))
  let t := if t.head? = some ('#' : CodePoint) then t.dropWhile (!isBreak ·) else t
  if !atLineEnd t.head? then throw .malformed
  return t.drop 1

/-- Skips the indentation of a line, up to a column. -/
def skipIndent (indent : Nat) (c : Cursor) : Cursor :=
  c.skip (min (c.rest.takeWhile (· = (' ' : CodePoint))).length (indent - c.column))

/-- Empty lines, and the indentation of the line after them. -/
def breaks (indent : Nat) : Nat → Cursor → Text × Cursor
  | 0, c => ([], c)
  | fuel + 1, c =>
    let c := skipIndent indent c
    match c.peek with
    | some b =>
      if isBreak b then
        let (t, d) := breaks indent fuel c.next
        (breakText b :: t, d)
      else ([], c)
    | none => ([], c)

/-- Leading empty lines, and the deepest indentation among them and the line after them. -/
def leading : Nat → Cursor → (deepest : Nat) → Text × Nat × Cursor
  | 0, c, deepest => ([], deepest, c)
  | fuel + 1, c, deepest =>
    match c.peek with
    | some b =>
      if b = ' ' then leading fuel c.next (max deepest c.next.column)
      else if isBreak b then
        let (t, n, d) := leading fuel c.next deepest
        (breakText b :: t, n, d)
      else ([], deepest, c)
    | none => ([], deepest, c)

/-- The line breaks that end the scalar. -/
def tail (chomping : Chomping) (lineBreak breaks : Text) : Text :=
  match chomping with
  | .strip => []
  | .clip => lineBreak
  | .keep => lineBreak ++ breaks

/-- What stands between two lines. -/
def between (folded : Bool) (lineBreak breaks : Text) (before after : Option CodePoint) : Text :=
  if folded && lineBreak = "\n" && !before.any isWhite && !after.any isWhite then
    if breaks = [] then " " else breaks
  else lineBreak ++ breaks

/-- The lines from one that is indented as far as the scalar. -/
def lines (folded : Bool) (chomping : Chomping) (indent : Nat) : Nat → Cursor → Text × Cursor
  | 0, c => ([], c)
  | fuel + 1, c =>
    let line := c.rest.takeWhile (!isBreak ·)
    let e := c.skip line.length
    let lineBreak : Text := (e.peek.map breakText).toList
    let (bs, d) := breaks indent e.rest.length e.next
    if d.column = indent ∧ d.peek ≠ none then
      let (t, f) := lines folded chomping indent fuel d
      (line ++ between folded lineBreak bs c.peek d.peek ++ t, f)
    else (line ++ tail chomping lineBreak bs, d)

/-- The scalar after its mark, in a collection that is indented by `outer`. -/
def read (folded : Bool) (outer : Int) (c : Cursor) : Except Fault (Text × Cursor) := do
  let (header, rest) ← header c.rest
  let c := c.goTo (← emptyLine rest)
  let least := max (outer + 1).toNat 1
  let fuel := c.rest.length + 1
  let (bs, indent, d) := match header.increment with
    | some n =>
      let indent := least + n - 1
      let (bs, d) := breaks indent fuel c
      (bs, indent, d)
    | none =>
      let (bs, deepest, d) := leading fuel c 0
      (bs, max least deepest, d)
  if d.column = indent ∧ d.peek ≠ none then
    let (t, e) := lines folded header.chomping indent fuel d
    return (bs ++ t, e)
  else return (tail header.chomping [] bs, d)

end ConnectionProfile.Yaml.Block
