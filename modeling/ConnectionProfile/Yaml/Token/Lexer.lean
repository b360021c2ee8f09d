import ConnectionProfile.Yaml.Token.Plain
import ConnectionProfile.Yaml.Token.Property
import ConnectionProfile.Yaml.Token.Quoted

/-!
# Cutting a YAML text into tokens

Indentation opens and closes block collections. Whether a scalar is a key shows only at the colon
after it, so the place of every possible key is kept until its line is over.
-/

namespace ConnectionProfile.Yaml

/-- A place where a key may have started. -/
structure KeyStart where
  /-- How many tokens come before it. -/
  token : Nat
  /-- A key has to be here, since nothing else can be at this indentation. -/
  required : Bool
  index : Nat
  line : Nat
  column : Nat

structure Lexer where
  cursor : Cursor
  /-- The tokens so far, the latest first. -/
  tokens : List Token
  indent : Int
  /-- The indentations of the enclosing block collections. -/
  outer : List Int
  /-- The possible key of the innermost collection. -/
  key : Option KeyStart
  /-- One possible key for each enclosing collection, for flow collections only. -/
  outerKeys : List (Option KeyStart)
  keyAllowed : Bool
  finished : Bool

namespace Lexer

def start (t : Text) : Lexer :=
  ⟨Cursor.start t, [], -1, [], none, [], true, false⟩

def inFlow (l : Lexer) : Bool := !l.outerKeys.isEmpty

def push (l : Lexer) (t : Token) : Lexer := { l with tokens := t :: l.tokens }

/-- How many code points come before the next token, and whether a line ends among them. -/
def gap (comment : Bool) : Text → Nat × Bool
  | [] => (0, false)
  | c :: rest =>
    if isBreak c then ((gap false rest).1 + 1, true)
    else if comment || c = '#' then
      let (n, b) := gap true rest
      (n + 1, b)
    else if c = ' ' then
      let (n, b) := gap false rest
      (n + 1, b)
    else (0, false)

def skipGap (l : Lexer) : Lexer :=
  let c := if l.cursor.index = 0 ∧ l.cursor.peek = some byteOrderMark then l.cursor.next
    else l.cursor
  let (n, hasBreak) := gap false c.rest
  { l with cursor := c.skip n, keyAllowed := l.keyAllowed || (hasBreak && !l.inFlow) }

/-- A key has to be on one line and within 1024 code points. -/
def isExpired (l : Lexer) (k : KeyStart) : Bool :=
  k.line ≠ l.cursor.line || k.index + 1024 < l.cursor.index

def fresh (l : Lexer) (key : Option KeyStart) : Option KeyStart := key.filter (!l.isExpired ·)

/-- Forgets every place that can be a key no longer. At a required one the text is at fault. -/
def expireKeys (l : Lexer) : Except Fault Lexer :=
  if (l.key :: l.outerKeys).any fun key => key.any fun k => l.isExpired k && k.required then
    .error .malformed
  else .ok { l with key := l.fresh l.key, outerKeys := l.outerKeys.map l.fresh }

/-- Forgets the possible key of the innermost collection. -/
def clearKey (l : Lexer) : Except Fault Lexer :=
  if l.key.any (·.required) then .error .malformed else .ok { l with key := none }

/-- Notes that a key may start here. -/
def markKey (l : Lexer) : Except Fault Lexer :=
  if l.keyAllowed then do
    let c := l.cursor
    let required := !l.inFlow && l.indent = c.column
    let l ← l.clearKey
    return { l with key := some ⟨l.tokens.length, required, c.index, c.line, c.column⟩ }
  else .ok l

/-- Closes the block collections that are indented deeper than `column`. -/
def closeBlocks (column : Int) : List Int → Lexer → Lexer
  | [], l => l
  | indent :: outer, l =>
    if column < l.indent then
      closeBlocks column outer ({ l with indent, outer }.push .blockEnd)
    else l

/-- Inside brackets the indentation does not count. -/
def closeDeeper (l : Lexer) (column : Int) : Lexer :=
  if l.inFlow then l else closeBlocks column l.outer l

/-- Whether a collection at the column is inside the current one. -/
def deepens (l : Lexer) (column : Nat) : Bool := l.indent < column

/-- Opens a block collection at the column when it is deeper than the current one. -/
def deepen (l : Lexer) (column : Nat) : Lexer :=
  if l.deepens column then { l with indent := column, outer := l.indent :: l.outer } else l

/-- Consumes `n` code points for a token. -/
def take (l : Lexer) (n : Nat) (t : Token) : Lexer :=
  { l with cursor := l.cursor.skip n }.push t

def endStream (l : Lexer) : Except Fault Lexer := do
  let l ← (l.closeDeeper (-1)).clearKey
  return { l.push .streamEnd with keyAllowed := false, finished := true }

def readDirective (l : Lexer) : Except Fault Lexer := do
  let l ← (l.closeDeeper (-1)).clearKey
  let (d, rest) ← Property.directive (l.cursor.rest.drop 1)
  return { l.push (.directive d) with cursor := l.cursor.goTo rest, keyAllowed := false }

def readBorder (l : Lexer) (t : Token) : Except Fault Lexer := do
  let l ← (l.closeDeeper (-1)).clearKey
  return { l.take 3 t with keyAllowed := false }

def openFlow (l : Lexer) (t : Token) : Except Fault Lexer := do
  let l ← l.markKey
  return { l.take 1 t with key := none, outerKeys := l.key :: l.outerKeys, keyAllowed := true }

def closeFlow (l : Lexer) (t : Token) : Except Fault Lexer := do
  let l ← l.clearKey
  match l.outerKeys with
  | [] => throw .malformed
  | key :: outerKeys => return { l.take 1 t with key, outerKeys, keyAllowed := false }

def readComma (l : Lexer) : Except Fault Lexer := do
  let l ← l.clearKey
  return { l.take 1 .flowEntry with keyAllowed := true }

/-- A mark that opens a block collection outside brackets. -/
def openBlock (l : Lexer) (opening : Token) : Except Fault Lexer :=
  if l.inFlow then .ok l
  else if !l.keyAllowed then .error .malformed
  else
    let column := l.cursor.column
    .ok (if l.deepens column then (l.deepen column).push opening else l)

def readHyphen (l : Lexer) : Except Fault Lexer := do
  let l ← (← l.openBlock .blockSequenceStart).clearKey
  return { l.take 1 .blockEntry with keyAllowed := true }

def readQuestion (l : Lexer) : Except Fault Lexer := do
  let l ← (← l.openBlock .blockMappingStart).clearKey
  return { l.take 1 .key with keyAllowed := !l.inFlow }

/-- Puts the key tokens in front of a scalar that turned out to be a key. -/
def insertKey (l : Lexer) (k : KeyStart) : Lexer :=
  let opens := !l.inFlow && l.deepens k.column
  let since := l.tokens.take (l.tokens.length - k.token)
  let before := l.tokens.drop (l.tokens.length - k.token)
  let marks : List Token := if opens then [.key, .blockMappingStart] else [.key]
  let l := if opens then l.deepen k.column else l
  { l with tokens := since ++ marks ++ before, key := none, keyAllowed := false }

def readColon (l : Lexer) : Except Fault Lexer :=
  match l.key with
  | some k => .ok ((l.insertKey k).take 1 .value)
  | none => do
    let l ← l.openBlock .blockMappingStart
    return { l.take 1 .value with keyAllowed := !l.inFlow }

/-- A token that may be a key, read by `read` from the text. -/
def readWord (l : Lexer) (read : Text → Except Fault (Token × Text)) : Except Fault Lexer := do
  let l ← l.markKey
  let (t, rest) ← read l.cursor.rest
  return { l.push t with cursor := l.cursor.goTo rest, keyAllowed := false }

def readAnchor (make : Text → Token) (t : Text) : Except Fault (Token × Text) :=
  (Property.anchor (t.drop 1)).map fun (name, rest) => (make name, rest)

def readQuoted (double : Bool) (t : Text) : Except Fault (Token × Text) :=
  (Quoting.read double (.inline []) (t.drop 1)).map fun (u, rest) => (.scalar u false, rest)

def readBlockScalar (l : Lexer) (folded : Bool) : Except Fault Lexer := do
  let l ← l.clearKey
  let (t, c) ← Block.read folded l.indent l.cursor.next
  return { l.push (.scalar t false) with cursor := c, keyAllowed := true }

def readPlain (l : Lexer) : Except Fault Lexer := do
  let l ← l.markKey
  let r := Plain.read l.inFlow (l.indent + 1) l.cursor.rest.length l.cursor [] false
  return { l.push (.scalar r.text true) with cursor := r.cursor, keyAllowed := r.keyAllowed }

/-- Marks that no plain scalar starts with. -/
def marks : Text := "-?:,[]\x7b\x7d#&*!|>'\"%@\x60"

def startsPlain (l : Lexer) (c : CodePoint) (next : Option CodePoint) : Bool :=
  !(isWhite c || isBreak c || marks.elem c) ||
    (!atGap next && (c = '-' || (!l.inFlow && (c = '?' || c = ':'))))

/-- Reads the token that starts with `c`. -/
def readAt (l : Lexer) (c : CodePoint) : Except Fault Lexer :=
  let atMargin := l.cursor.column = 0
  let next := l.cursor.peekAt 1
  if c = '%' ∧ atMargin then l.readDirective
  else if atMargin ∧ isIndicator '-' l.cursor.rest then l.readBorder .documentStart
  else if atMargin ∧ isIndicator '.' l.cursor.rest then l.readBorder .documentEnd
  else if c = '[' then l.openFlow .flowSequenceStart
  else if c = '\x7b' then l.openFlow .flowMappingStart
  else if c = ']' then l.closeFlow .flowSequenceEnd
  else if c = '\x7d' then l.closeFlow .flowMappingEnd
  else if c = ',' then l.readComma
  else if c = '-' ∧ atGap next then l.readHyphen
  else if c = '?' ∧ (l.inFlow ∨ atGap next) then l.readQuestion
  else if c = ':' ∧ (l.inFlow ∨ atGap next) then l.readColon
  else if c = '*' then l.readWord (readAnchor .alias)
  else if c = '&' then l.readWord (readAnchor .anchor)
  else if c = '!' then l.readWord Property.tag
  else if c = '|' ∧ !l.inFlow then l.readBlockScalar false
  else if c = '>' ∧ !l.inFlow then l.readBlockScalar true
  else if c = '\'' then l.readWord (readQuoted false)
  else if c = '"' then l.readWord (readQuoted true)
  else if l.startsPlain c next then l.readPlain
  else .error .malformed

/-- Reads one more token, with the marks of collections before it. -/
def readNext (l : Lexer) : Except Fault Lexer := do
  let l ← l.skipGap.expireKeys
  let l := l.closeDeeper l.cursor.column
  match l.cursor.peek with
  | none => l.endStream
  | some c => l.readAt c

/-- The tokens whose kind is settled, in order: those before the first place of a possible key. -/
def settled (l : Lexer) : List Token :=
  let places := (l.key :: l.outerKeys).filterMap fun key => (l.fresh key).map (·.token)
  match places.min? with
  | some n => l.tokens.reverse.take n
  | none => l.tokens.reverse

/-- All tokens, or those before a place where none can be read. -/
def run : Nat → Lexer → List Token
  | 0, l => l.settled ++ [.fault .malformed]
  | fuel + 1, l =>
    match l.readNext with
    | .error f => l.settled ++ [.fault f]
    | .ok l => if l.finished then l.tokens.reverse else run fuel l

/-- As `run`, for the start of a longer text. Where the rest is needed, `beyond` is at fault. -/
def runBefore (beyond : Fault) : Nat → Lexer → List Token
  | 0, l => l.settled ++ [.fault beyond]
  | fuel + 1, l =>
    if l.skipGap.cursor.rest = [] then l.settled ++ [.fault beyond]
    else match l.readNext with
      | .error f => l.settled ++ [.fault (if f = .unclosed then beyond else f)]
      | .ok next =>
        if next.cursor.rest = [] then l.settled ++ [.fault beyond] else runBefore beyond fuel next

end Lexer

/-- Every token takes at least one code point, so the length of the text bounds their number. -/
def tokens (t : Text) : List Token := Lexer.run (t.length + 1) (Lexer.start t)

/-- The tokens of a text up to a place where `beyond` is at fault. -/
def tokensBefore (t : Text) (beyond : Fault) : List Token :=
  Lexer.runBefore beyond (t.length + 1) (Lexer.start t)

end ConnectionProfile.Yaml
