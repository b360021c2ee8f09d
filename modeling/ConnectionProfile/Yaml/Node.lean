import ConnectionProfile.Yaml.Tag

/-!
# YAML nodes

A text is a tree of tagged nodes. A node may have a name, its anchor, and aliases stand for the node
that they name. An alias may stand inside the very collection that it names.
-/

namespace ConnectionProfile.Yaml

inductive Node where
  | scalar (tag : Tag) (text : Text)
  | sequence (tag : Tag) (items : List Node)
  | mapping (tag : Tag) (members : List (Node × Node))
  | anchored (name : Text) (node : Node)
  | alias (name : Text)
  deriving Inhabited

namespace Node

/-- A node that was left out. -/
def empty : Node := .scalar .null []

end Node

end ConnectionProfile.Yaml
