import ConnectionProfile.Yaml.Graph.Merge
import ConnectionProfile.Yaml.Scalar

/-!
# From graphs to collections

A scalar has its value at once. A collection gets a number of its own and is filled later, in the
order of these numbers. So of several faults the one in the collection with the least number counts.
-/

namespace ConnectionProfile.Yaml

/-- What a node stands for. -/
inductive Ref where
  | value (v : Value)
  /-- The collection with a number. -/
  | collection (n : Nat)
  deriving Inhabited

inductive Kind where
  | list
  | map
  | set
  | pairs

def Kind.ofTag? : Tag → Option Kind
  | .sequence => some .list
  | .mapping => some .map
  | .set => some .set
  | .orderedMap | .pairs => some .pairs
  | _ => none

/-- What a collection holds once it is filled. -/
inductive Contents where
  | list (items : List Ref)
  | map (entries : List (Value × Ref))
  | set (keys : List Value)
  | pairs (pairs : List (Ref × Ref))
  deriving Inhabited

namespace Graph

/-- The text of a scalar. A mapping lends the text under its default key. -/
def text? (g : Graph) : (fuel n : Nat) → Option Text
  | 0, _ => none
  | fuel + 1, n =>
    match g.body n with
    | .scalar t => some t
    | .sequence _ => none
    | .mapping members =>
      (members.find? fun (k, _) => g.tag k = .value).bind fun (_, v) => g.text? fuel v

/-- A number that is none is a value of its own at each node, unless the text names the one that all
nodes share. -/
def ownValue (n : Nat) (t : Text) : Value → Value
  | .float x => if x.isNan && !Scalar.namesNan t then .float (.nanNumber (n + 1)) else .float x
  | v => v

/-- The value of a node that has a scalar's tag. -/
def scalar (g : Graph) (n : Nat) : Except Fault Value :=
  match g.text? g.size n with
  | none => .error .malformed
  | some t =>
    match g.body n, g.tag n with
    | .mapping _, .timestamp => .error .timeOfMapping
    | _, tag => (Scalar.value tag t).map (ownValue n t)

end Graph

structure Builder where
  graph : Graph
  /-- What the nodes stand for, as far as it is known. -/
  refs : Array (Option Ref)
  /-- The kind and the node of each collection. -/
  collections : Array (Kind × Nat)

/-- A step of building. -/
abbrev Building := StateT Builder (Except Fault)

namespace Building

def graph : Building Graph := do return (← get).graph

def note (n : Nat) (r : Ref) : Building Ref := do
  modify fun b => { b with refs := b.refs.setIfInBounds n (some r) }
  return r

/-- What a node stands for. It is the same at all places of the node, even when the node changes. -/
def ref (n : Nat) : Building Ref := do
  let b ← get
  match b.refs[n]? with
  | some (some r) => return r
  | _ =>
    match Kind.ofTag? (b.graph.tag n) with
    | some kind =>
      set { b with collections := b.collections.push (kind, n) }
      note n (.collection b.collections.size)
    | none => note n (.value (← b.graph.scalar n))

/-- An entry of a mapping. No collection is a key. -/
def entry (m : Member) : Building (Value × Ref) := do
  match ← ref m.1 with
  | .value key => return (key, ← ref m.2)
  | .collection _ => throw .malformed

/-- The entries of a mapping, with those that merge keys bring in. Of a repeated key the last one
counts. -/
def entries (n : Nat) : Building (List (Value × Ref)) := do
  let b ← get
  match b.graph.body n with
  | .mapping _ =>
    let graph ← b.graph.merge n
    set { b with graph }
    return Entries.ofList (← (graph.members n).mapM entry)
  | _ => throw .malformed

def items (n : Nat) : Building (List Nat) := do
  match (← graph).body n with
  | .sequence items => return items
  | _ => throw .malformed

/-- The only member of a mapping, as a pair. -/
def pair (n : Nat) : Building (Ref × Ref) := do
  match (← graph).body n with
  | .mapping [(k, v)] =>
    let first ← ref k
    return (first, ← ref v)
  | _ => throw .malformed

def fill (n : Nat) : Kind → Building Contents
  | .list => do return .list (← (← items n).mapM ref)
  | .map => do return .map (← entries n)
  | .set => do return .set (Entries.keys (← entries n))
  | .pairs => do return .pairs (← (← items n).mapM pair)

/-- Fills the collections that are not filled yet, also those that are met on the way. -/
def fillAll : (fuel : Nat) → (filled : Array Contents) → Building (Array Contents)
  | 0, filled => return filled
  | fuel + 1, filled => do
    match (← get).collections[filled.size]? with
    | none => return filled
    | some (kind, n) => fillAll fuel (filled.push (← fill n kind))

end Building

/-- What the first node stands for, and all collections. No node stands for two collections, so the
number of nodes bounds theirs. -/
def Graph.build (g : Graph) : Except Fault (Ref × Array Contents) :=
  let building : Building (Ref × Array Contents) := do
    let root ← Building.ref 0
    return (root, ← Building.fillAll (g.size + 1) #[])
  building.run' ⟨g, Array.replicate g.size none, #[]⟩

end ConnectionProfile.Yaml
