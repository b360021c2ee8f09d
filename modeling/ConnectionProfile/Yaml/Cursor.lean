import ConnectionProfile.Text

/-!
# Places in a YAML text

A cursor is the text that is left, with the place where it starts.
-/

namespace ConnectionProfile.Yaml

def byteOrderMark : CodePoint := ⟨0xFEFF, by decide⟩

def isBreak (c : CodePoint) : Bool :=
  c = '\n' || c.val = 0x85 || c.val = 0x2028 || c.val = 0x2029

def isWhite (c : CodePoint) : Bool := c = ' ' || c = '\t'

/-- The end of the text, or what `p` holds of. -/
def endOr (p : CodePoint → Bool) : Option CodePoint → Bool
  | none => true
  | some c => p c

/-- Where a line ends. -/
def atLineEnd : Option CodePoint → Bool := endOr isBreak

/-- Where a word ends: at a blank, a tab, a line break or the end. -/
def atGap : Option CodePoint → Bool := endOr fun c => isWhite c || isBreak c

/-- As `atGap`, without the tab. -/
def atSpace : Option CodePoint → Bool := endOr fun c => c = ' ' || isBreak c

/-- What a line break counts as. The two separators of Unicode keep their kind. -/
def breakText (c : CodePoint) : CodePoint :=
  if c.val = 0x2028 ∨ c.val = 0x2029 then c else '\n'

/-- Three hyphens or three dots, as a word. -/
def isIndicator (mark : CodePoint) (t : Text) : Bool :=
  match t with
  | a :: b :: c :: rest => a = mark && b = mark && c = mark && atGap rest.head?
  | _ => false

def isDocumentBorder (t : Text) : Bool := isIndicator '-' t || isIndicator '.' t

/-- What a YAML text may hold. -/
def isPrintable (c : CodePoint) : Bool :=
  c = '\t' || c = '\n' || c = '\r' || c.between 0x20 0x7E || c.val = 0x85 ||
  c.between 0xA0 0xD7FF || c.between 0xE000 0xFFFD || 0x10000 ≤ c.val

structure Cursor where
  rest : Text
  index : Nat
  line : Nat
  column : Nat

namespace Cursor

def start (t : Text) : Cursor := ⟨t, 0, 0, 0⟩

def peek (c : Cursor) : Option CodePoint := c.rest.head?

def peekAt (c : Cursor) (n : Nat) : Option CodePoint := c.rest[n]?

def next (c : Cursor) : Cursor :=
  match c.rest with
  | [] => c
  | d :: rest =>
    if isBreak d then ⟨rest, c.index + 1, c.line + 1, 0⟩
    else if d = byteOrderMark then ⟨rest, c.index + 1, c.line, c.column⟩
    else ⟨rest, c.index + 1, c.line, c.column + 1⟩

def skip : Nat → Cursor → Cursor
  | 0, c => c
  | n + 1, c => skip n c.next

/-- The cursor at a later rest of its text. -/
def goTo (c : Cursor) (rest : Text) : Cursor := c.skip (c.rest.length - rest.length)

end Cursor

end ConnectionProfile.Yaml
