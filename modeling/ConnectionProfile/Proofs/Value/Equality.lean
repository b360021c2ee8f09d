import ConnectionProfile.Proofs.Value.Document

/-!
# Equal documents

Two mappings are equal when they have as many members and the same under each key, in whatever
order. So a document and the same document put in order are equal.
-/

namespace ConnectionProfile.Value

mutual
def Equals : Value → Value → Prop
  | .list xs, .list ys => EqualItems xs ys
  | .map es, .map fs => es.length = fs.length ∧ EqualMembers es fs
  | v, w => v = w

def EqualItems : List Value → List Value → Prop
  | [], [] => True
  | x :: xs, y :: ys => x.Equals y ∧ EqualItems xs ys
  | _, _ => False

/-- The second mapping has what the first one has, under the same keys. -/
def EqualMembers : List Entry → List Entry → Prop
  | [], _ => True
  | (k, v) :: es, fs => (∃ w, (k, w) ∈ fs ∧ v.Equals w) ∧ EqualMembers es fs
end

theorem equalMembers_iff {es fs : List Entry} :
    EqualMembers es fs ↔ ∀ e ∈ es, ∃ w, (e.1, w) ∈ fs ∧ e.2.Equals w := by
  induction es with
  | nil => simp [EqualMembers]
  | cons e es ih =>
    obtain ⟨k, v⟩ := e
    rw [EqualMembers, ih, List.forall_mem_cons]

mutual
theorem equals_arranged (sort : Bool) : (v : Value) → (v.arranged sort).Equals v
  | .list xs => equalItems_arranged sort xs
  | .map es => by
    refine ⟨?_, equalMembers_iff.2 fun e he => ?_⟩
    · rw [(Entries.arrange_perm sort _).length_eq, arrangedMembers_eq_map, List.length_map]
    · rw [Entries.mem_arrange, arrangedMembers_eq_map] at he
      obtain ⟨⟨k, v⟩, hm, rfl⟩ := List.mem_map.1 he
      exact ⟨v, hm, equals_arranged_of_mem sort es _ hm⟩
  | .null | .bool _ | .int _ | .float _ | .text _ | .octets _ | .set _ | .pair _ _ | .date _
  | .dateTime _ => rfl

theorem equalItems_arranged (sort : Bool) : (xs : List Value) →
    EqualItems (arrangedItems sort xs) xs
  | [] => trivial
  | x :: xs => ⟨equals_arranged sort x, equalItems_arranged sort xs⟩

theorem equals_arranged_of_mem (sort : Bool) : (es : List Entry) →
    ∀ e ∈ es, (e.2.arranged sort).Equals e.2
  | [], _, he => nomatch he
  | (_, v) :: es, e, he => by
    obtain rfl | he := List.mem_cons.1 he
    · exact equals_arranged sort v
    · exact equals_arranged_of_mem sort es e he
end

end ConnectionProfile.Value
