import ConnectionProfile.Json.Order
import ConnectionProfile.Number.Numeral
import ConnectionProfile.Number.Shortest
import ConnectionProfile.Text.Wide

/-!
# Writing JSON

A layout fixes the spacing, the order of the members and the escapes. Values without a JSON form
are refused.
-/

namespace ConnectionProfile.Json

structure Layout where
  /-- One step of indentation; without it all is on one line. -/
  indent : Option Text := none
  itemSeparator : Text := ", "
  keySeparator : Text := ": "
  sortKeys : Bool := false
  ascii : Bool := true
  /-- Leaves out members whose keys have no text. -/
  skipKeys : Bool := false
  /-- Writes infinities and values that are no numbers, for which JSON has no form. -/
  allowNan : Bool := true

def escapeUnit (n : Nat) : Text := "\\u" ++ Text.hex 4 n

def escapeOne (ascii : Bool) (c : CodePoint) : Text :=
  if c = '"' ∨ c = '\\' then ['\\', c]
  else if c = '\n' then "\\n"
  else if c = '\r' then "\\r"
  else if c = '\t' then "\\t"
  else if c = '\x0C' then "\\f"
  else if c = '\x08' then "\\b"
  else if c.val < 0x20 then escapeUnit c.val
  else if ascii ∧ 0x7F ≤ c.val then
    if c.val < 0x10000 then escapeUnit c.val
    else escapeUnit (Wide.highUnit c) ++ escapeUnit (Wide.lowUnit c)
  else [c]

def quote (ascii : Bool) (t : Text) : Text := "\"" ++ t.flatMap (escapeOne ascii) ++ "\""

inductive PrintError where
  | noJsonForm
  | noCommonOrder
  | notFinite
  | integerTooLong
  deriving DecidableEq, Repr

def intText (i : Int) : Except PrintError Text :=
  if Numeral.isWritable i then .ok (.ofInt i) else .error .integerTooLong

theorem intText_ok {i : Int} {t : Text} (h : intText i = .ok t) : .ofInt i = t := by
  unfold intText at h
  split at h
  · exact Except.ok.inj h
  · cases h

def floatText (allowNan : Bool) (x : Binary64) : Except PrintError Text :=
  match x.view, allowNan with
  | .finite .., _ => .ok x.toText
  | _, false => .error .notFinite
  | .nan, true => .ok "NaN"
  | .infinite negative, true => .ok (if negative then "-Infinity" else "Infinity")

/-- The text that names a member. -/
def keyText (layout : Layout) : Value → Except PrintError Text
  | .text t => .ok t
  | .null => .ok "null"
  | .bool b => .ok (if b then "true" else "false")
  | .int i => intText i
  | .float x => floatText layout.allowNan x
  | _ => .error .noJsonForm

def hasKeyText : Value → Bool
  | .text _ | .null | .bool _ | .int _ | .float _ => true
  | _ => false

/-- A member, ready to be put among the others. -/
abbrev Member := Value × Except PrintError Text

namespace Layout

/-- Sorts members and leaves some out, as the layout asks. -/
def arrange (layout : Layout) (members : List Member) : Except PrintError (List Member) := do
  let members ← if layout.sortKeys then
      match sortMembers? members with
      | some members => .ok members
      | none => .error .noCommonOrder
    else .ok members
  return if layout.skipKeys then members.filter (hasKeyText ·.1) else members

def newline (layout : Layout) (depth : Nat) : Text :=
  match layout.indent with
  | none => []
  | some step => "\n" ++ (List.replicate depth step).flatten

/-- The parts of a collection that is not empty, even if all of them are left out. -/
def enclose (layout : Layout) (depth : Nat) (start finish : Text) (parts : List Text) : Text :=
  start ++ layout.newline (depth + 1) ++
    Text.joinWith (layout.itemSeparator ++ layout.newline (depth + 1)) parts ++
    layout.newline depth ++ finish

end Layout

mutual
/-- The value at a depth of nesting. -/
def print (layout : Layout) (depth : Nat) : Value → Except PrintError Text
  | .null => .ok "null"
  | .bool b => .ok (if b then "true" else "false")
  | .int i => intText i
  | .float x => floatText layout.allowNan x
  | .text t => .ok (quote layout.ascii t)
  | .list [] => .ok "[]"
  | .list xs => do
    return layout.enclose depth "[" "]" (← printItems layout (depth + 1) xs)
  | .pair v w => do
    let first ← print layout (depth + 1) v
    let second ← print layout (depth + 1) w
    return layout.enclose depth "[" "]" [first, second]
  | .map [] => .ok "\x7b\x7d"
  | .map es => do
    let members ← layout.arrange (printMembers layout (depth + 1) es)
    return layout.enclose depth "\x7b" "\x7d" (← members.mapM Prod.snd)
  | _ => .error .noJsonForm

def printItems (layout : Layout) (depth : Nat) : List Value → Except PrintError (List Text)
  | [] => .ok []
  | x :: xs => do
    let first ← print layout depth x
    return first :: (← printItems layout depth xs)

/-- Each member under its key. -/
def printMembers (layout : Layout) (depth : Nat) : List Entry → List Member
  | [] => []
  | (k, v) :: es =>
    let member := do
      let key ← keyText layout k
      return quote layout.ascii key ++ layout.keySeparator ++ (← print layout depth v)
    (k, member) :: printMembers layout depth es
end

end ConnectionProfile.Json
