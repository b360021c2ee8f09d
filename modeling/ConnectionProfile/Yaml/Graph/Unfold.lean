import ConnectionProfile.Yaml.Graph.Fill

/-!
# From collections to values

A value is a tree. Collections that hold only scalars and settled collections are settled, one after
the other. One that holds itself is endless, and is unfolded a few times only: further than any
reader of documents looks.
-/

namespace ConnectionProfile.Yaml

/-- The values of collections, as far as they are known. -/
abbrev Known := Array (Option Value)

def Ref.value? (known : Known) : Ref → Option Value
  | .value v => some v
  | .collection n => (known[n]?).join

namespace Contents

def entryOf? (known : Known) (e : Value × Ref) : Option Entry := (e.2.value? known).map (e.1, ·)

def pairOf? (known : Known) (p : Ref × Ref) : Option Value := do
  return .pair (← p.1.value? known) (← p.2.value? known)

def value? (known : Known) : Contents → Option Value
  | .list items => (items.mapM (Ref.value? known)).map .list
  | .map es => (es.mapM (entryOf? known)).map .map
  | .set keys => some (.set keys)
  | .pairs ps => (ps.mapM (pairOf? known)).map .list

/-- A collection of the same kind that holds nothing. -/
def emptied : Contents → Value
  | .list _ | .pairs _ => .list []
  | .map _ => .map []
  | .set _ => .set []

end Contents

namespace Known

/-- Settles what can be settled. Parts mostly have greater numbers, so the last comes first. -/
def settleOnce (contents : Array Contents) (known : Known) : Known :=
  (List.range contents.size).foldr (fun n known =>
    if (known[n]?).join.isSome then known
    else known.setIfInBounds n ((contents[n]?).bind (·.value? known))) known

def count (known : Known) : Nat := (known.filter Option.isSome).size

/-- Settles until nothing more can be settled. -/
def settle (contents : Array Contents) : (fuel : Nat) → Known → Known
  | 0, known => known
  | fuel + 1, known =>
    let next := settleOnce contents known
    if count next = count known then known else settle contents fuel next

/-- Each collection, and the endless ones unfolded so many times. -/
def unfolded (contents : Array Contents) (settled : Known) : Nat → Known
  | 0 => contents.mapIdx fun n c => (settled[n]?).join.or (some c.emptied)
  | depth + 1 =>
    let shallower := unfolded contents settled depth
    contents.mapIdx fun n c => (settled[n]?).join.or (c.value? shallower)

end Known

def unfoldDepth : Nat := 4

/-- The value of the first node. -/
def Graph.value (g : Graph) : Except Fault Value := do
  let (root, contents) ← g.build
  let settled := Known.settle contents (contents.size + 1) (Array.replicate contents.size none)
  return (root.value? (Known.unfolded contents settled unfoldDepth)).getD .null

end ConnectionProfile.Yaml
