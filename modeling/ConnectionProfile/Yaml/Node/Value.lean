import ConnectionProfile.Yaml.Graph.Unfold
import ConnectionProfile.Yaml.Node.Plain

/-!
# Values of nodes

A plain node has its value part by part; any other node has the value of its graph.
-/

namespace ConnectionProfile.Yaml.Node

def value (node : Node) : Except Fault Value :=
  match node.plainValue? with
  | some v => .ok v
  | none => (Graph.ofNode node).value

end ConnectionProfile.Yaml.Node
