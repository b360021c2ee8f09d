import ConnectionProfile.Proofs.Yaml.Written
import ConnectionProfile.Yaml.Node.Grammar

/-!
# Nodes of documents

The tokens of a document make one node for each of its parts. Three steps for each token are more
than the grammar takes.
-/

namespace ConnectionProfile.Yaml

mutual
/-- The node of a document in flow style. -/
def nodeOf : Value → Node
  | .text t => .scalar .text (Wide.halves t)
  | .list xs => .sequence .sequence (itemNodes xs)
  | .map es => .mapping .mapping (memberNodes es)
  | _ => .empty

def itemNodes : List Value → List Node
  | [] => []
  | x :: xs => nodeOf x :: itemNodes xs

def memberNodes : List Entry → List (Node × Node)
  | [] => []
  | (k, v) :: es => (.scalar .text k.plain, nodeOf v) :: memberNodes es
end

namespace Grammar

variable {handles : List (Text × Text)} {anchors : List Text}

/-- The first token of a document. -/
inductive IsStart : Token → Prop
  | scalar (t : Text) : IsStart (.scalar t false)
  | list : IsStart .flowSequenceStart
  | map : IsStart .flowMappingStart

theorem tokensOf_start {v : Value} (h : v.IsDocument false) :
    ∃ t ts, tokensOf v = t :: ts ∧ IsStart t := by
  cases v with
  | text t => exact ⟨_, _, rfl, .scalar _⟩
  | list xs => exact ⟨_, _, rfl, .list⟩
  | map es => exact ⟨_, _, rfl, .map⟩
  | null => cases h
  | _ => exact h.elim

section
variable {fuel : Nat} {t : Token} {ts : List Token}

theorem node_start {place : Place} (h : IsStart t) :
    node (fuel + 1) place ⟨t :: ts, handles, anchors⟩ =
      content fuel place ⟨none, none⟩ none ⟨t :: ts, handles, anchors⟩ := by
  cases h <;> rw [node] <;> rfl

theorem node_scalar {place : Place} {text : Text} :
    node (fuel + 2) place ⟨.scalar text false :: ts, handles, anchors⟩ =
      .ok (.scalar .text text, ⟨ts, handles, anchors⟩) := by
  rw [node_start (.scalar text), content]
  rfl

theorem node_list {place : Place} :
    node (fuel + 2) place ⟨.flowSequenceStart :: ts, handles, anchors⟩ = (do
      let (items, s) ← flowItems fuel true ⟨ts, handles, anchors⟩
      return (.sequence .sequence items, s)) := by
  rw [node_start .list, content]
  rfl

theorem node_map {place : Place} :
    node (fuel + 2) place ⟨.flowMappingStart :: ts, handles, anchors⟩ = (do
      let (members, s) ← flowMembers fuel true ⟨ts, handles, anchors⟩
      return (.mapping .mapping members, s)) := by
  rw [node_start .map, content]
  rfl

/-- The next item, behind a comma unless it is the first. -/
theorem flowItems_next {first : Bool} (h : IsStart t) :
    flowItems (fuel + 1) first
        ⟨(if first then [] else [.flowEntry]) ++ (t :: ts), handles, anchors⟩ = (do
      let (n, s) ← node fuel .flow ⟨t :: ts, handles, anchors⟩
      let (ns, s) ← flowItems fuel false s
      return (n :: ns, s)) := by
  cases first <;> cases h <;> rw [flowItems] <;> rfl

theorem flowItems_end {first : Bool} :
    flowItems (fuel + 1) first ⟨.flowSequenceEnd :: ts, handles, anchors⟩ =
      .ok ([], ⟨ts, handles, anchors⟩) := by
  rw [flowItems]
  rfl

/-- A key that is a scalar. -/
theorem orEmpty_scalar {ends : List Token} {k : Text} (h : ends.elem (.scalar k false) = false) :
    orEmpty ends (node (fuel + 2) .flow) ⟨.scalar k false :: ts, handles, anchors⟩ =
      .ok (.scalar .text k, ⟨ts, handles, anchors⟩) := by
  have hp : Input.peek ⟨.scalar k false :: ts, handles, anchors⟩ = .ok (.scalar k false) := rfl
  rw [← node_scalar, orEmpty, hp]
  change (if ends.elem (Token.scalar k false) = true then _ else _) = _
  rw [h]
  rfl

/-- A value behind its mark. -/
theorem optionalValue_start (h : IsStart t) :
    optionalValue [.flowEntry, .flowMappingEnd] (node fuel .flow)
        ⟨.value :: t :: ts, handles, anchors⟩ =
      node fuel .flow ⟨t :: ts, handles, anchors⟩ := by
  cases h <;> rfl

theorem flowMembers_key {k : Text} {first : Bool} (h : IsStart t) :
    flowMembers (fuel + 3) first
        ⟨(if first then [] else [.flowEntry]) ++
          (.key :: .scalar k false :: .value :: t :: ts), handles, anchors⟩ = (do
      let (v, s) ← node (fuel + 2) .flow ⟨t :: ts, handles, anchors⟩
      let (ms, s) ← flowMembers (fuel + 2) false s
      return ((.scalar .text k, v) :: ms, s)) := by
  have hk : orEmpty [.value, .flowEntry, .flowMappingEnd] (node (fuel + 2) .flow)
      ⟨.scalar k false :: .value :: t :: ts, handles, anchors⟩ =
        .ok (.scalar .text k, ⟨.value :: t :: ts, handles, anchors⟩) := orEmpty_scalar rfl
  have hm : flowMembers (fuel + 3) first
      ⟨(if first then [] else [.flowEntry]) ++
        (.key :: .scalar k false :: .value :: t :: ts), handles, anchors⟩ = (do
      let (k, s) ← orEmpty [.value, .flowEntry, .flowMappingEnd] (node (fuel + 2) .flow)
        ⟨.scalar k false :: .value :: t :: ts, handles, anchors⟩
      let (v, s) ← optionalValue [.flowEntry, .flowMappingEnd] (node (fuel + 2) .flow) s
      let (ms, s) ← flowMembers (fuel + 2) false s
      return ((k, v) :: ms, s)) := by
    cases first <;> rw [flowMembers] <;> rfl
  rw [hm, hk, ← optionalValue_start h]
  rfl

theorem flowMembers_end {first : Bool} :
    flowMembers (fuel + 1) first ⟨.flowMappingEnd :: ts, handles, anchors⟩ =
      .ok ([], ⟨ts, handles, anchors⟩) := by
  rw [flowMembers]
  rfl

end

-- ---------------------------------------------------------------------------
-- Documents
-- ---------------------------------------------------------------------------

-- Fuel for three calls a token is enough: a value takes two before its parts are read, and a member
-- one more.
mutual
theorem node_tokensOf : (v : Value) → v.IsDocument false →
    ∀ (fuel : Nat) (place : Place) (ts : List Token), 3 * (tokensOf v).length ≤ fuel →
      node fuel place ⟨tokensOf v ++ ts, handles, anchors⟩ =
        .ok (nodeOf v, ⟨ts, handles, anchors⟩)
  | .text t, _, fuel, place, ts, hf => by
    obtain ⟨fuel, rfl⟩ := Nat.exists_eq_add_of_le' (show 2 ≤ fuel by simp [tokensOf] at hf; omega)
    exact node_scalar
  | .list xs, h, fuel, place, ts, hf => by
    rw [tokensOf, List.length_cons] at hf
    obtain ⟨fuel, rfl⟩ := Nat.exists_eq_add_of_le' (show 2 ≤ fuel by omega)
    rw [tokensOf, List.cons_append, node_list, flowItems_itemTokens xs h fuel true ts (by omega)]
    rfl
  | .map es, h, fuel, place, ts, hf => by
    rw [tokensOf, List.length_cons] at hf
    obtain ⟨fuel, rfl⟩ := Nat.exists_eq_add_of_le' (show 2 ≤ fuel by omega)
    rw [tokensOf, List.cons_append, node_map,
      flowMembers_memberTokens es h.2 fuel true ts (by omega)]
    rfl

theorem flowItems_itemTokens : (xs : List Value) → Value.AreDocuments false xs →
    ∀ (fuel : Nat) (first : Bool) (ts : List Token), 3 * (itemTokens first xs).length ≤ fuel →
      flowItems fuel first ⟨itemTokens first xs ++ ts, handles, anchors⟩ =
        .ok (itemNodes xs, ⟨ts, handles, anchors⟩)
  | [], _, fuel, first, ts, hf => by
    obtain ⟨fuel, rfl⟩ := Nat.exists_eq_add_of_le' (show 1 ≤ fuel by simp [itemTokens] at hf; omega)
    exact flowItems_end
  | x :: xs, h, fuel, first, ts, hf => by
    obtain ⟨u, us, hu, hstart⟩ := tokensOf_start h.1
    have hlength := congrArg List.length hu
    rw [List.length_cons] at hlength
    have hrest : 0 < (itemTokens false xs).length := by cases xs <;> simp [itemTokens]
    rw [itemTokens, List.length_append, List.length_append] at hf
    obtain ⟨fuel, rfl⟩ := Nat.exists_eq_add_of_le' (show 1 ≤ fuel by omega)
    have hx := node_tokensOf x h.1 fuel .flow (itemTokens false xs ++ ts) (by omega)
    have hxs := flowItems_itemTokens xs h.2 fuel false ts (by omega)
    rw [hu, List.cons_append] at hx
    rw [itemTokens, hu, List.append_assoc, List.append_assoc, List.cons_append,
      flowItems_next hstart, hx]
    change (do let (ns, s) ← flowItems fuel false _; return _ : Except Fault _) = _
    rw [hxs]
    rfl

theorem flowMembers_memberTokens : (es : List Entry) → Value.AreMembers false es →
    ∀ (fuel : Nat) (first : Bool) (ts : List Token), 3 * (memberTokens first es).length ≤ fuel →
      flowMembers fuel first ⟨memberTokens first es ++ ts, handles, anchors⟩ =
        .ok (memberNodes es, ⟨ts, handles, anchors⟩)
  | [], _, fuel, first, ts, hf => by
    obtain ⟨fuel, rfl⟩ :=
      Nat.exists_eq_add_of_le' (show 1 ≤ fuel by simp [memberTokens] at hf; omega)
    exact flowMembers_end
  | (k, v) :: es, h, fuel, first, ts, hf => by
    obtain ⟨⟨k, rfl, -⟩, hv, hes⟩ := h
    obtain ⟨u, us, hu, hstart⟩ := tokensOf_start hv
    have hlength := congrArg List.length hu
    rw [List.length_cons] at hlength
    simp only [memberTokens, List.length_append, List.length_cons, List.length_nil] at hf
    obtain ⟨fuel, rfl⟩ := Nat.exists_eq_add_of_le' (show 3 ≤ fuel by omega)
    have hx := node_tokensOf v hv (fuel + 2) .flow (memberTokens false es ++ ts) (by omega)
    have hxs := flowMembers_memberTokens es hes (fuel + 2) false ts (by omega)
    rw [hu, List.cons_append] at hx
    rw [memberTokens, hu, List.append_assoc, List.append_assoc, List.append_assoc]
    change flowMembers _ _ ⟨_ ++ (.key :: .scalar k false :: .value :: u ::
      (us ++ (memberTokens false es ++ ts))), _, _⟩ = _
    rw [flowMembers_key hstart, hx]
    change (do let (ms, s) ← flowMembers (fuel + 2) false _; return _ : Except Fault _) = _
    rw [hxs]
    rfl
end

end Grammar

theorem firstDocument_start {t : Token} {ts : List Token} {handles : List (Text × Text)}
    {anchors : List Text} (h : Grammar.IsStart t) :
    Grammar.firstDocument ⟨t :: ts, handles, anchors⟩ =
      (Grammar.node (Grammar.fuelFor (t :: ts)) .block ⟨t :: ts, handles, anchors⟩).map some := by
  have hp : Input.peek ⟨t :: ts, handles, anchors⟩ = .ok t := by cases h <;> rfl
  have hd : ¬(Grammar.isDirective t = true ∨ t = .documentStart ∨ t = .streamEnd) := by
    cases h <;> simp [Grammar.isDirective]
  rw [Grammar.firstDocument, hp]
  change (if Grammar.isDirective t = true ∨ t = .documentStart ∨ t = .streamEnd then _ else _) = _
  rw [if_neg hd]
  cases Grammar.node (Grammar.fuelFor (t :: ts)) .block ⟨t :: ts, handles, anchors⟩ <;> rfl

/-- The tokens of a document are the only document of their stream. -/
theorem ofTokens?_tokensOf {v : Value} (h : v.IsDocument false) :
    Node.ofTokens? (tokensOf v ++ [.streamEnd]) = .ok (some (nodeOf v)) := by
  obtain ⟨t, ts, ht, hstart⟩ := Grammar.tokensOf_start h
  have hn : Grammar.node (Grammar.fuelFor (tokensOf v ++ [.streamEnd])) .block
      ⟨tokensOf v ++ [.streamEnd], Grammar.standardHandles, []⟩ =
        .ok (nodeOf v, ⟨[.streamEnd], Grammar.standardHandles, []⟩) :=
    Grammar.node_tokensOf v h _ _ _ (by rw [Grammar.fuelFor, List.length_append]; omega)
  rw [ht, List.cons_append] at hn ⊢
  rw [Node.ofTokens?, firstDocument_start hstart, hn]
  rfl

end ConnectionProfile.Yaml
