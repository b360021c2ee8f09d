import ConnectionProfile.Text

/-!
# Network addresses

Which texts are addresses of version 4 or 6 of the Internet protocol.
-/

namespace ConnectionProfile.Address

/-- A decimal number up to 255 without a leading zero. -/
def isByte (t : Text) : Bool :=
  match t with
  | [] => false
  | c :: rest =>
    t.all CodePoint.isAsciiDigit && t.length ≤ 3 && (rest = [] || c ≠ '0') &&
      t.foldl (fun n d => n * 10 + (d.val - 0x30)) 0 ≤ 255

def isVersion4 (t : Text) : Bool :=
  let bytes := t.parts '.'
  bytes.length = 4 && bytes.all isByte

/-- One to four digits in base sixteen. -/
def isGroup (t : Text) : Bool := t ≠ [] && t.length ≤ 4 && t.all CodePoint.isHexDigit

/-- An address of version 4 at the end stands for two groups. -/
def expandLast (groups : List Text) : Option (List Text) :=
  match groups.getLast? with
  | none => none
  | some last =>
    if last.elem ('.' : CodePoint) then
      if isVersion4 last then some (groups.dropLast ++ [("0" : Text), "0"]) else none
    else some groups

/-- Groups on one side of the gap. An empty outermost group is allowed only next to the gap. -/
def trimSide (outermost : Option Text) (side : List Text) : Option (List Text) :=
  if outermost = some [] then (if side.length = 1 then some [] else none) else some side

/-- Eight groups, or fewer around one gap that is written as an empty group. -/
def areGroups (groups : List Text) : Bool :=
  let inner := (groups.drop 1).dropLast
  match inner.findIdx? (· = []) with
  | none => groups.length = 8 && groups.all isGroup
  | some i =>
    if 1 < (inner.filter (· = [])).length then false
    else
      match trimSide groups.head? (groups.take (i + 1)),
        trimSide groups.getLast? (groups.drop (i + 2)) with
      | some high, some low =>
        high.length + low.length ≤ 7 && high.all isGroup && low.all isGroup
      | _, _ => false

/-- The address without a zone, or nothing when the zone is empty or marked twice. -/
def withoutZone? (t : Text) : Option Text :=
  match t.cut? '%' with
  | none => some t
  | some (address, zone) => if zone = [] ∨ ('%' : CodePoint) ∈ zone then none else some address

def isVersion6 (t : Text) : Bool :=
  match withoutZone? t with
  | none => false
  | some address =>
    let groups := address.parts ':'
    if groups.length < 3 then false
    else match expandLast groups with
      | none => false
      | some groups => groups.length ≤ 9 && areGroups groups

end ConnectionProfile.Address
