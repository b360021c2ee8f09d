import ConnectionProfile.Text.Classes
import ConnectionProfile.Value
import ConnectionProfile.Yaml.Tag
import ConnectionProfile.Yaml.Token

/-!
# Values of scalars

Each tag of a scalar reads its text in its own way.
-/

namespace ConnectionProfile.Yaml.Scalar

def bool (t : Text) : Except Fault Value :=
  match Spelling.bools.lookup t.lowerAscii with
  | some b => .ok (.bool b)
  | none => .error .unknownWord

/-- A numeral without bars, and its sign. -/
def signed (t : Text) : Except Fault (Bool × Text) :=
  let digits := t.filter (· ≠ ('_' : CodePoint))
  if digits = [] then .error .emptyNumeral else .ok (Numeral.sign digits)

def applySign (negative : Bool) (i : Int) : Int := if negative then -i else i

def numeral (base : Nat) (t : Text) : Except Fault Int :=
  match Numeral.int? base t with
  | some i => .ok i
  | none => .error .badNumeral

/-- The value of parts that count sixty times less each. -/
def sixties (parts : List Int) : Int := parts.foldl (fun n part => n * 60 + part) 0

def magnitude (t : Text) : Except Fault Int :=
  if t = "0" then .ok 0
  else match t.after? "0b", t.after? "0x" with
    | some ds, _ => numeral 2 ds
    | none, some ds => numeral 16 ds
    | none, none =>
      match t with
      | [] => .error .emptyNumeral
      | c :: _ =>
        if c = '0' then numeral 8 t
        else if t.elem (':' : CodePoint) then (t.parts ':').mapM (numeral 10) |>.map sixties
        else numeral 10 t

def int (t : Text) : Except Fault Value := do
  let (negative, body) ← signed t
  return .int (applySign negative (← magnitude body))

def fraction (t : Text) : Except Fault Binary64 :=
  match Numeral.float? t with
  | some x => .ok x
  | none => .error .badNumeral

/-- As `sixties`, from the last part on, and rounded after every step. -/
def floatSixties : List Binary64 → (base : Nat) → (sum : Binary64) → Except Fault Binary64
  | [], _, sum => .ok sum
  | part :: parts, base, sum =>
    if (Binary64.ofNat base).isInfinite then .error .tooManyParts
    else floatSixties parts (base * 60) (sum.add (part.mul (.ofNat base)))

def size (t : Text) : Except Fault Binary64 :=
  if t = ".inf" then .ok (.infinity false)
  else if t = ".nan" then .ok .nan
  else if t.elem (':' : CodePoint) then do
    let parts ← (t.parts ':').mapM fraction
    floatSixties parts.reverse 1 (.zero false)
  else fraction t

def float (t : Text) : Except Fault Value := do
  let (negative, body) ← signed t.lowerAscii
  let x ← size body
  return .float (if negative then x.neg else x)

/-- Whether a text is the name of the value that is no number, rather than a numeral for one. -/
def namesNan (t : Text) : Bool :=
  match signed t.lowerAscii with
  | .ok (_, body) => body = ".nan"
  | .error _ => false

def timestamp (t : Text) : Except Fault Value :=
  match Stamp.read? (t.withoutFinal '\n') with
  | none => .error .notATime
  | some s =>
    match Date.of? s.year s.month s.day with
    | none => .error .badDate
    | some d =>
      match s.clock with
      | none => .ok (.date d)
      | some c =>
        match DateTime.of? d c.hour c.minute c.second c.microsecond c.zone with
        | some time => .ok (.dateTime time)
        | none => .error .badDate

/-- The six bits of a digit in base sixty-four. -/
def sixBits? (c : CodePoint) : Option Nat :=
  if c.isAsciiUpper then some (c.val - 0x41)
  else if c.isAsciiLower then some (c.val - 0x61 + 26)
  else if c.isAsciiDigit then some (c.val - 0x30 + 52)
  else if c = '+' then some 62
  else if c = '/' then some 63
  else none

/-- Reads groups of four digits. Other characters are skipped. `place` tells how many digits of
the group were read, `left` the bits of them that are in no octet yet, and `pads` how many equals
signs stand at its end. -/
def octets : Text → (place left pads : Nat) → Option Octets
  | [], place, _, _ => if place = 0 then some [] else none
  | c :: rest, place, left, pads =>
    if c = '=' then
      if 2 ≤ place then
        if 4 ≤ place + pads + 1 then some [] else octets rest place left (pads + 1)
      else octets rest place left pads
    else match sixBits? c with
      | none => octets rest place left pads
      | some n =>
        match place with
        | 0 => octets rest 1 n 0
        | 1 => (octets rest 2 (n % 16) 0).map ((left * 4 + n / 16).toUInt8 :: ·)
        | 2 => (octets rest 3 (n % 4) 0).map ((left * 16 + n / 4).toUInt8 :: ·)
        | _ => (octets rest 0 0 0).map ((left * 64 + n).toUInt8 :: ·)

def binary (t : Text) : Except Fault Value :=
  if t.isAscii then
    match octets t 0 0 0 with
    | some bs => .ok (.octets bs)
    | none => .error .malformed
  else .error .malformed

/-- The value of a scalar, for the tags that scalars can have. -/
def value (tag : Tag) (t : Text) : Except Fault Value :=
  match tag with
  | .null => .ok .null
  | .bool => bool t
  | .int => int t
  | .float => float t
  | .binary => binary t
  | .timestamp => timestamp t
  | .text => .ok (.text t)
  | _ => .error .malformed

end ConnectionProfile.Yaml.Scalar
