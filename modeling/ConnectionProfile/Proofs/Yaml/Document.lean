import ConnectionProfile.Proofs.Yaml.Loading
import ConnectionProfile.Proofs.Yaml.Parsed
import ConnectionProfile.Yaml

/-!
# Documents in JSON, read as YAML

What is written as JSON for ASCII is read as YAML with the same parts. Only code points beyond
sixteen bits change: each comes back as its two surrogates.
-/

namespace ConnectionProfile.Yaml

open Json (write)

theorem plainScalar?_text (t : Text) : Node.plainScalar? .text t = some (.text t) := rfl

mutual
theorem plainValue?_nodeOf : (v : Value) → v.IsDocument false →
    (nodeOf v).plainValue? = some (v.mapTexts Wide.halves)
  | .text t, _ => plainScalar?_text _
  | .list xs, h => by
    rw [nodeOf, Node.plainValue?, plainItems?_itemNodes xs h]
    rfl
  | .map es, h => by
    have ht : ∀ k ∈ Entries.keys (Value.mapTextsMembers Wide.halves es),
        ∃ t : Text, k = .text t := by
      intro k hk
      rw [Entries.keys_mapTextsMembers] at hk
      obtain ⟨e, he, rfl⟩ := List.mem_map.1 hk
      obtain ⟨⟨t, ht, -⟩, -⟩ := Value.areMembers_iff.1 h.2 e he
      exact ⟨t, ht⟩
    have hn : (Entries.keys (Value.mapTextsMembers Wide.halves es)).Nodup := by
      rw [Entries.keys_mapTextsMembers]
      exact h.1
    rw [nodeOf, Node.plainValue?, plainMembers?_memberNodes es h.2, Option.map_some,
      Entries.ofList_of_nodup ht hn, Value.mapTexts]

theorem plainItems?_itemNodes : (xs : List Value) → Value.AreDocuments false xs →
    Node.plainItems? (itemNodes xs) = some (Value.mapTextsItems Wide.halves xs)
  | [], _ => rfl
  | x :: xs, h => by
    rw [itemNodes, Node.plainItems?, plainValue?_nodeOf x h.1, plainItems?_itemNodes xs h.2]
    rfl

theorem plainMembers?_memberNodes : (es : List Entry) → Value.AreMembers false es →
    Node.plainMembers? (memberNodes es) = some (Value.mapTextsMembers Wide.halves es)
  | [], _ => rfl
  | (k, v) :: es, h => by
    obtain ⟨⟨t, rfl, -⟩, hv, hes⟩ := h
    rw [memberNodes, Node.plainMembers?, plainScalar?_text, plainValue?_nodeOf v hv,
      plainMembers?_memberNodes es hes]
    rfl
end

theorem isShown_of_isGap {t : Text} (h : IsGap t) : Json.IsShown t := by
  intro c hc
  obtain rfl | rfl := h c hc
  · exact .inl ⟨by decide, by decide⟩
  · exact .inr rfl

theorem isShown_of_isFlow {layout : Json.Layout} (h : layout.IsFlow) : layout.IsShown where
  ascii := h.ascii
  indent step hs := isShown_of_isGap (h.indent step hs)
  item := by
    obtain ⟨gap, hi, hg⟩ := h.item
    rw [hi]
    exact Json.IsShown.append (t := [(',' : CodePoint)]) (Json.isShown_of_all rfl)
      (isShown_of_isGap hg)
  key := by
    obtain ⟨gap, hk, hg⟩ := h.key
    rw [hk]
    exact Json.IsShown.append (t := [(':' : CodePoint)]) (Json.isShown_of_all rfl)
      (isShown_of_isGap hg)

/-- A written document has octets, and they are read as its value with surrogates for the code
points beyond sixteen bits. -/
theorem read_write {layout : Json.Layout} (hl : layout.IsFlow) {v : Value}
    (hv : v.IsDocument false) {gap : Text} (hg : IsGap gap) :
    ∃ bs, Utf8.encode? (write layout 0 v ++ gap) = some bs ∧
      read bs = .ok (v.mapTexts Wide.halves) := by
  have hs := (Json.isShown_write (isShown_of_isFlow hl) v 0).append (isShown_of_isGap hg)
  obtain ⟨bs, hb⟩ := encode?_isShown hs
  refine ⟨bs, hb, ?_⟩
  rw [read, ofOctets_isShown hs hb]
  simp only [readText, tokens_write hl hv hg, ofTokens?_tokensOf hv]
  change (nodeOf v).value = _
  rw [Node.value, plainValue?_nodeOf v hv]

end ConnectionProfile.Yaml
