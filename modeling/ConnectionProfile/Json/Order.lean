import ConnectionProfile.Value

/-!
# Order of members

Members are ordered by their keys, and only keys of one kind can be ordered. A value that is no
number is neither less nor greater than a number. Then the result depends on which keys are
compared: a run at the start stays, turned round if it falls, and each further member is put in by
halving.
-/

namespace ConnectionProfile.Json

namespace Halving

variable {α : Type} (lt : α → α → Bool)

/-- The place of a new item between `low` and `high`, after the items that it is not less than. -/
def place (x : α) (sorted : List α) : (fuel low high : Nat) → Nat
  | 0, low, _ => low
  | fuel + 1, low, high =>
    let middle := low + (high - low) / 2
    match sorted[middle]? with
    | some y =>
      if high ≤ low then low
      else if lt x y then place x sorted fuel low middle
      else place x sorted fuel (middle + 1) high
    | none => low

def insert (sorted : List α) (x : α) : List α :=
  let n := place lt x sorted (sorted.length + 1) 0 sorted.length
  sorted.take n ++ x :: sorted.drop n

/-- How many items at the start are, each with the next, as `p` says. -/
def runLength (p : α → α → Bool) : List α → Nat
  | x :: y :: rest => if p x y then runLength p (y :: rest) + 1 else 1
  | rest => rest.length

/-- The run at the start, in rising order. -/
def firstRun (xs : List α) : List α :=
  match xs with
  | x :: y :: _ =>
    if lt y x then (xs.take (runLength (fun a b => lt b a) xs)).reverse
    else xs.take (runLength (fun a b => !lt b a) xs)
  | _ => xs

def sort (xs : List α) : List α :=
  let run := firstRun lt xs
  (xs.drop run.length).foldl (insert lt) run

end Halving

/-- More units than any number has. -/
def infiniteUnits : Int := ((1 <<< 20000 : Nat) : Int)

/-- How many units a number has, unless it is none. -/
def units? : Value → Option Int
  | .bool b => some (if b then Binary64.unitsOfOne else 0)
  | .int i => some (i * Binary64.unitsOfOne)
  | .float x =>
    match x.view with
    | .finite negative m e => some (Binary64.units negative m e)
    | .infinite negative => some (if negative then -infiniteUnits else infiniteUnits)
    | .nan => none
  | _ => none

def keyLt : Value → Value → Bool
  | .text s, .text t => !t.le s
  | v, w =>
    match units? v, units? w with
    | some i, some j => i < j
    | _, _ => false

inductive KeyKind where
  | text
  | number
  | octets
  | date
  deriving DecidableEq

namespace KeyKind

def of? : Value → Option KeyKind
  | .text _ => some .text
  | .bool _ | .int _ | .float _ => some .number
  | .octets _ => some .octets
  | .date _ => some .date
  | _ => none

end KeyKind

/-- A single key is in order, whatever its kind. -/
def haveOrder : List Value → Bool
  | [] | [_] => true
  | v :: vs => (KeyKind.of? v).any fun kind => vs.all fun w => KeyKind.of? w = some kind

def isNan : Value → Bool
  | .float x => x.isNan
  | _ => false

/-- Members in the order of their keys, if their keys have one. -/
def sortMembers? {α : Type} (members : List (Value × α)) : Option (List (Value × α)) :=
  if !haveOrder (members.map Prod.fst) then none
  else if members.any (isNan ·.1) then some (Halving.sort (fun m n => keyLt m.1 n.1) members)
  else some (members.mergeSort fun m n => !keyLt n.1 m.1)

end ConnectionProfile.Json
