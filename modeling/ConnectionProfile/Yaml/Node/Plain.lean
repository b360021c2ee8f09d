import ConnectionProfile.Yaml.Node
import ConnectionProfile.Yaml.Scalar

/-!
# Plain nodes

A node is plain when no part of it can have an effect on another: no anchors, aliases or merge keys,
only scalars for keys, only the standard kinds of collections, and no fault. Its value is found part
by part.
-/

namespace ConnectionProfile.Yaml.Node

def plainScalar? (tag : Tag) (t : Text) : Option Value :=
  match Scalar.value tag t with
  | .ok (.float x) => if x.isNan then none else some (.float x)
  | .ok v => some v
  | .error _ => none

mutual
def plainValue? : Node → Option Value
  | .scalar tag t => plainScalar? tag t
  | .sequence .sequence items => (plainItems? items).map .list
  | .mapping .mapping members => (plainMembers? members).map fun es => .map (Entries.ofList es)
  | _ => none

def plainItems? : List Node → Option (List Value)
  | [] => some []
  | n :: ns => do
    let v ← n.plainValue?
    return v :: (← plainItems? ns)

def plainMembers? : List (Node × Node) → Option (List Entry)
  | [] => some []
  | (.scalar tag t, n) :: ms => do
    let k ← plainScalar? tag t
    let v ← n.plainValue?
    return (k, v) :: (← plainMembers? ms)
  | _ => none
end

end ConnectionProfile.Yaml.Node
