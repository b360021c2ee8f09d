import ConnectionProfile.Yaml.Stamp

/-!
# Tags

A tag says what kind of value a node stands for. A plain scalar without a tag gets one from its
spelling.
-/

namespace ConnectionProfile.Yaml

inductive Tag where
  | null
  | bool
  | int
  | float
  | binary
  | timestamp
  | text
  | sequence
  | mapping
  | set
  | orderedMap
  | pairs
  | merge
  | value
  | unknown
  deriving DecidableEq, Repr

namespace Tag

def standardLead : Text := "tag:yaml.org,2002:"

def names : List (Text × Tag) :=
  [("null", .null), ("bool", .bool), ("int", .int), ("float", .float), ("binary", .binary),
    ("timestamp", .timestamp), ("str", .text), ("seq", .sequence), ("map", .mapping),
    ("set", .set), ("omap", .orderedMap), ("pairs", .pairs), ("merge", .merge), ("value", .value)]

def ofText (t : Text) : Tag :=
  ((t.after? standardLead).bind fun name => names.lookup name).getD .unknown

end Tag

namespace Spelling

def isDigitOrBar (c : CodePoint) : Bool := c.isAsciiDigit || c = '_'

/-- Digits and bars, the first a digit. -/
def isDigits (t : Text) : Bool := t.head?.any CodePoint.isAsciiDigit && t.all isDigitOrBar

def dropSign (t : Text) : Text := (Numeral.sign t).2

/-- One digit, or two below sixty. -/
def isSixtieth (t : Text) : Bool :=
  match t with
  | [a] => a.isAsciiDigit
  | [a, b] => a.between 0x30 0x35 && b.isAsciiDigit
  | _ => false

/-- A first number and at least one more, separated by colons. -/
def isSexagesimal (isFirst : Text → Bool) (t : Text) : Bool :=
  match t.parts ':' with
  | first :: more => isFirst first && !more.isEmpty && more.all isSixtieth
  | [] => false

def isNonzeroDigits (t : Text) : Bool := isDigits t && t.head? ≠ some ('0' : CodePoint)

/-- Digits of a base after its mark. -/
def isBased (mark : Text) (p : CodePoint → Bool) (t : Text) : Bool :=
  match t.after? mark with
  | some ds => !ds.isEmpty && ds.all fun c => p c || c = '_'
  | none => false

def isInt (t : Text) : Bool :=
  let u := dropSign t
  isBased "0b" (·.between 0x30 0x31) u || isBased "0x" CodePoint.isHexDigit u ||
    isBased "0" (·.between 0x30 0x37) u || u = "0" || isNonzeroDigits u ||
    isSexagesimal isNonzeroDigits u

/-- Nothing, or an exponent with a sign. -/
def isExponent (t : Text) : Bool :=
  match t with
  | [] => true
  | [_] => false
  | e :: s :: ds =>
    (e = 'e' || e = 'E') && (s = '+' || s = '-') && !ds.isEmpty && ds.all CodePoint.isAsciiDigit

def isFraction (t : Text) : Bool := isExponent (t.dropWhile isDigitOrBar)

def isFloat (t : Text) : Bool :=
  let u := dropSign t
  let infinities : List Text := [".inf", ".Inf", ".INF"]
  let nans : List Text := [".nan", ".NaN", ".NAN"]
  infinities.elem u || nans.elem t ||
    match u.cut? '.' with
    | none => false
    | some ([], fraction) =>
      u = t && fraction.head?.any CodePoint.isAsciiDigit && isFraction fraction
    | some (whole, fraction) =>
      (isDigits whole && isFraction fraction) ||
        (isSexagesimal isDigits whole && fraction.all isDigitOrBar)

def bools : List (Text × Bool) :=
  [("yes", true), ("no", false), ("true", true), ("false", false), ("on", true), ("off", false)]

/-- In small letters, in capitals, or with one capital at the start. -/
def isCased (word t : Text) : Bool :=
  t = word || t = word.upperAscii || t = Text.upperAscii (word.take 1) ++ word.drop 1

def isBool (t : Text) : Bool := bools.any fun (word, _) => isCased word t

def isNull (t : Text) : Bool := t = [] || t = "~" || isCased "null" t

/-- The tag of a plain scalar. A line break at its end does not count. -/
def tag (t : Text) : Tag :=
  let u := if t = "\n" then t else t.withoutFinal '\n'
  if isBool u then .bool
  else if isFloat u then .float
  else if isInt u then .int
  else if u = "<<" then .merge
  else if isNull u then .null
  else if Stamp.isSpelled u then .timestamp
  else if u = "=" then .value
  else if u = "!" ∨ u = "&" ∨ u = "*" then .unknown
  else .text

end Spelling

end ConnectionProfile.Yaml
