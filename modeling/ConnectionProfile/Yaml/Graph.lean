import ConnectionProfile.Yaml.Node

/-!
# Graphs of nodes

In a graph every node has a number, and an alias is the number of the node that it names. So a node
that is named twice is one node, and what happens to it shows at all of its places.
-/

namespace ConnectionProfile.Yaml

abbrev Member := Nat × Nat

/-- What a node holds: a text or the numbers of other nodes. -/
inductive Body where
  | scalar (text : Text)
  | sequence (items : List Nat)
  | mapping (members : List Member)

structure Cell where
  tag : Tag
  body : Body

structure Graph where
  cells : Array Cell
  /-- The numbers that anchors name. -/
  anchors : List (Text × Nat)

namespace Graph

def empty : Graph := ⟨#[], []⟩

def size (g : Graph) : Nat := g.cells.size

def cell (g : Graph) (n : Nat) : Cell := (g.cells[n]?).getD ⟨.unknown, .scalar []⟩

def tag (g : Graph) (n : Nat) : Tag := (g.cell n).tag

def body (g : Graph) (n : Nat) : Body := (g.cell n).body

/-- The members of a mapping. -/
def members (g : Graph) (n : Nat) : List Member :=
  match g.body n with
  | .mapping members => members
  | _ => []

def push (g : Graph) (tag : Tag) (body : Body) : Graph :=
  { g with cells := g.cells.push ⟨tag, body⟩ }

def setBody (g : Graph) (n : Nat) (body : Body) : Graph :=
  { g with cells := g.cells.modify n ({ · with body }) }

def setTag (g : Graph) (n : Nat) (tag : Tag) : Graph :=
  { g with cells := g.cells.modify n ({ · with tag }) }

mutual
/-- Adds a node and all its parts, and answers its number. A collection comes before its parts, so
that they can name it. -/
def add (g : Graph) : Node → Graph × Nat
  | .scalar tag t => (g.push tag (.scalar t), g.size)
  | .sequence tag nodes =>
    let (h, items) := addItems (g.push tag (.sequence [])) nodes
    (h.setBody g.size (.sequence items), g.size)
  | .mapping tag nodes =>
    let (h, members) := addMembers (g.push tag (.mapping [])) nodes
    (h.setBody g.size (.mapping members), g.size)
  | .anchored name node => add { g with anchors := (name, g.size) :: g.anchors } node
  | .alias name => (g, (g.anchors.lookup name).getD 0)

def addItems (g : Graph) : List Node → Graph × List Nat
  | [] => (g, [])
  | node :: nodes =>
    let (g, n) := g.add node
    let (g, ns) := addItems g nodes
    (g, n :: ns)

def addMembers (g : Graph) : List (Node × Node) → Graph × List Member
  | [] => (g, [])
  | (key, value) :: nodes =>
    let (g, k) := g.add key
    let (g, v) := g.add value
    let (g, ns) := addMembers g nodes
    (g, (k, v) :: ns)
end

/-- The graph of a node, which has the number zero. -/
def ofNode (node : Node) : Graph := (empty.add node).1

end Graph

end ConnectionProfile.Yaml
