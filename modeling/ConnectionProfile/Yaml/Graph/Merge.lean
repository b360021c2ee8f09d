import ConnectionProfile.Yaml.Graph
import ConnectionProfile.Yaml.Token

/-!
# Merge keys

A merge key brings the members of another mapping into its own, or those of several mappings, the
last one first. Mappings that are brought in are merged themselves before. All this changes the
nodes, so it shows wherever they are named, and a mapping that is merged already has no merge keys.
-/

namespace ConnectionProfile.Yaml.Graph

/-- The value of the first merge key of a mapping, and the other members. -/
def cutMerge? (g : Graph) : List Member → Option (Nat × List Member)
  | [] => none
  | (k, v) :: ms =>
    if g.tag k = .merge then some (v, ms)
    else (g.cutMerge? ms).map fun (source, rest) => (source, (k, v) :: rest)

/-- A default key is a text from now on. -/
def settleKey (g : Graph) (m : Member) : Graph :=
  if g.tag m.1 = .value then g.setTag m.1 .text else g

/-- A mapping without merge keys, with the members that they brought in before its own. -/
def bring (g : Graph) (n : Nat) (brought : List Member) : Graph :=
  let own := g.members n
  (own.foldl settleKey g).setBody n (.mapping (brought ++ own))

/-- Goes on merging into the mapping `n`, which other mappings have brought members to. -/
def mergeInto : (fuel n : Nat) → (brought : List Member) → Graph → Except Fault Graph
  | 0, _, _, g => .ok g
  | fuel + 1, n, brought, g =>
    match g.cutMerge? (g.members n) with
    | none => .ok (g.bring n brought)
    | some (source, rest) => do
      let merged (source : Nat) (g : Graph) : Except Fault Graph :=
        match g.body source with
        | .mapping _ => mergeInto fuel source [] g
        | _ => .error .malformed
      let g := g.setBody n (.mapping rest)
      match g.body source with
      | .sequence items =>
        let (more, g) ← items.foldlM (fun (more, g) item => do
          let g ← merged item g
          return (g.members item ++ more, g)) ([], g)
        mergeInto fuel n (brought ++ more) g
      | _ =>
        let g ← merged source g
        mergeInto fuel n (brought ++ g.members source) g

/-- Every step takes a merge key away, and there are no more than members. -/
def mergeFuel (g : Graph) : Nat :=
  g.cells.foldl (fun n cell =>
    match cell.body with
    | .mapping members => n + members.length
    | _ => n) 1

def merge (n : Nat) (g : Graph) : Except Fault Graph := mergeInto g.mergeFuel n [] g

end ConnectionProfile.Yaml.Graph
