import ConnectionProfile.Number.Numeral
import ConnectionProfile.Text.Utf8
import ConnectionProfile.Yaml.Token.Block

/-!
# Anchors, tags and directives

Each function reads one token from the text after its mark and answers with the text that follows.
-/

namespace ConnectionProfile.Yaml.Property

def isNameCharacter (c : CodePoint) : Bool := c.isAsciiAlphanumeric || c = '-' || c = '_'

/-- A name that is not empty. -/
def name (t : Text) : Except Fault (Text × Text) :=
  let word := t.takeWhile isNameCharacter
  if word = [] then .error .malformed else .ok (word, t.drop word.length)

def afterAnchor : Text := "?:,]\x7d%@\x60"

/-- The name of an anchor or an alias. -/
def anchor (t : Text) : Except Fault (Text × Text) := do
  let (word, rest) ← name t
  if !atGap rest.head? ∧ !rest.head?.any afterAnchor.elem then throw .malformed
  return (word, rest)

def uriMarks : Text := "-;/?:@&=+$,_.!~*'()[]"

/-- The octets of a tag; the percent sign writes an octet in base sixteen. -/
def uriOctets : Text → Except Fault (Octets × Text)
  | [] => .ok ([], [])
  | c :: rest =>
    if c = '%' then
      match rest with
      | h :: k :: rest =>
        match Numeral.digits? 16 [h, k] with
        | some n => (uriOctets rest).map fun (bs, t) => (n.toUInt8 :: bs, t)
        | none => .error .malformed
      | _ => .error .malformed
    else if c.isAsciiAlphanumeric || uriMarks.elem c then
      (uriOctets rest).map fun (bs, t) => (c.val.toUInt8 :: bs, t)
    else .ok ([], c :: rest)

def uri (t : Text) : Except Fault (Text × Text) := do
  let (bs, rest) ← uriOctets t
  match Utf8.decode? .refused bs with
  | some u => if u = [] then throw .malformed else return (u, rest)
  | none => throw .malformed

/-- A handle: one exclamation mark, or a name between two. -/
def handle (t : Text) : Except Fault (Text × Text) :=
  match t with
  | [] => .error .malformed
  | c :: rest =>
    if c ≠ '!' then .error .malformed
    else if rest.head? = some (' ' : CodePoint) then .ok ([c], rest)
    else
      let word := rest.takeWhile isNameCharacter
      match rest.drop word.length with
      | [] => .error .malformed
      | d :: more => if d = '!' then .ok (c :: word ++ [d], more) else .error .malformed

/-- A tag, from its exclamation mark on. -/
def tag (t : Text) : Except Fault (Token × Text) := do
  let (token, rest) ← read
  if !atSpace rest.head? then throw .malformed
  return (token, rest)
where
  read : Except Fault (Token × Text) := do
    let body := t.drop 1
    if body.head? = some ('<' : CodePoint) then
      let (u, rest) ← uri (body.drop 1)
      if rest.head? = some ('>' : CodePoint) then return (.tag none u, rest.drop 1)
      else throw .malformed
    else if atGap body.head? then return (.tag none "!", body)
    else
      let word := body.takeWhile fun (c : CodePoint) => !(c = ' ' || isBreak c)
      if word.elem ('!' : CodePoint) then
        let (h, rest) ← handle t
        let (u, rest) ← uri rest
        return (.tag (some h) u, rest)
      else
        let (u, rest) ← uri body
        return (.tag (some "!") u, rest)

def dropSpaces (t : Text) : Text := t.dropWhile (· = (' ' : CodePoint))

/-- A number of a version. -/
def versionNumber (t : Text) : Except Fault (Nat × Text) :=
  let ds := t.takeWhile CodePoint.isAsciiDigit
  match Numeral.digits? 10 ds with
  | none => .error .malformed
  | some n =>
    if Numeral.maxDecimalDigits < ds.length then .error .versionTooLong
    else .ok (n, t.drop ds.length)

def version (t : Text) : Except Fault (Directive × Text) := do
  let (major, rest) ← versionNumber (dropSpaces t)
  if rest.head? ≠ some ('.' : CodePoint) then throw .malformed
  let (_, rest) ← versionNumber (rest.drop 1)
  if !atSpace rest.head? then throw .malformed
  return (.version major, rest)

def tagDirective (t : Text) : Except Fault (Directive × Text) := do
  let (h, rest) ← handle (dropSpaces t)
  if rest.head? ≠ some (' ' : CodePoint) then throw .malformed
  let (u, rest) ← uri (dropSpaces rest)
  if !atSpace rest.head? then throw .malformed
  return (.tag h u, rest)

/-- A directive after its percent sign, with the rest of its line. -/
def directive (t : Text) : Except Fault (Directive × Text) := do
  let (word, rest) ← name t
  if !atSpace rest.head? then throw .malformed
  let (d, rest) ←
    if word = "YAML" then version rest
    else if word = "TAG" then tagDirective rest
    else pure (.other, rest.dropWhile (!isBreak ·))
  return (d, ← Block.emptyLine rest)

end ConnectionProfile.Yaml.Property
