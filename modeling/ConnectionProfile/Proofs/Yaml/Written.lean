import ConnectionProfile.Proofs.Yaml.FlowText

/-!
# Documents written as JSON, cut into YAML tokens

A document in JSON is one of flow collections. `tokensOf` are its tokens, and `lexes_write` cuts
them out of the text, in each layout that separates with spaces and line ends and has the colon
right behind the key.
-/

namespace ConnectionProfile

/-- The layout is for ASCII and separates its parts as YAML does. -/
structure Json.Layout.IsFlow (layout : Json.Layout) : Prop where
  ascii : layout.ascii = true
  indent : ∀ step, layout.indent = some step → Yaml.IsGap step
  item : ∃ gap, layout.itemSeparator = (',' : CodePoint) :: gap ∧ Yaml.IsGap gap
  key : ∃ gap, layout.keySeparator = (':' : CodePoint) :: gap ∧ Yaml.IsGap gap

theorem Json.Layout.IsFlow.newline {layout : Json.Layout} (h : layout.IsFlow) (depth : Nat) :
    Yaml.IsGap (layout.newline depth) := by
  intro c hc
  obtain rfl | ⟨step, hi, hc⟩ := Json.Layout.mem_newline hc
  · exact .inr rfl
  · exact h.indent step hi c hc

namespace Yaml

mutual
/-- The tokens of a document in flow style. -/
def tokensOf : Value → List Token
  | .text t => [.scalar (Wide.halves t) false]
  | .list xs => .flowSequenceStart :: itemTokens true xs
  | .map es => .flowMappingStart :: memberTokens true es
  | _ => []

/-- The items and the end of a sequence, with a comma before each item but the first. -/
def itemTokens (first : Bool) : List Value → List Token
  | [] => [.flowSequenceEnd]
  | x :: xs => (if first then [] else [.flowEntry]) ++ (tokensOf x ++ itemTokens false xs)

def memberTokens (first : Bool) : List Entry → List Token
  | [] => [.flowMappingEnd]
  | (k, v) :: es =>
    (if first then [] else [.flowEntry]) ++
      ([.key, .scalar k.plain false, .value] ++ (tokensOf v ++ memberTokens false es))
end

section
variable {layout : Json.Layout} {sep : Text} {nesting : Nat}

open Json (write writeItems writeMembers quote enclose_cons)

/-- A comma between two parts of a collection. -/
theorem lexes_separator (hl : layout.IsFlow) (depth : Nat) (keys : Bool) :
    Lexes nesting keys (layout.itemSeparator ++ layout.newline depth) [.flowEntry] nesting
      true := by
  obtain ⟨gap, hi, hg⟩ := hl.item
  have hs : layout.itemSeparator ++ layout.newline depth =
      [(',' : CodePoint)] ++ (gap ++ layout.newline depth) := by rw [hi]; rfl
  rw [hs]
  exact Lexes.comma.append (.gap (hg.append (hl.newline depth)))

/-- A key with its colon and what separates it from its value. -/
theorem lexes_key (hl : layout.IsFlow) {t : Text} (ht : t.isKeyword = true) :
    Lexes (nesting + 1) true (quote layout.ascii t ++ layout.keySeparator)
      [.key, .scalar t false, .value] (nesting + 1) false := by
  obtain ⟨gap, hk, hg⟩ := hl.key
  have hs : quote layout.ascii t ++ layout.keySeparator =
      (quote true t ++ [(':' : CodePoint)]) ++ gap := by
    rw [hk, hl.ascii, List.append_assoc]
    rfl
  rw [hs]
  exact (Lexes.key ht).append (.gap hg)

mutual
theorem lexes_write (hl : layout.IsFlow) : (v : Value) → v.IsDocument false →
    ∀ (depth nesting : Nat) (keys : Bool),
      Lexes nesting keys (write layout depth v) (tokensOf v) nesting false
  | .text t, _, _, _, _ => by
    rw [write, hl.ascii]
    exact .scalar t
  | .list [], _, _, _, _ => Lexes.openList.append .closeList
  | .list (x :: xs), h, depth, nesting, keys => by
    have hw : write layout depth (.list (x :: xs)) =
        layout.enclose depth ['['] [']'] (writeItems layout (depth + 1) (x :: xs)) := rfl
    rw [hw, writeItems, enclose_cons]
    exact Lexes.openList.append ((Lexes.gap (hl.newline _)).append
      ((lexes_write hl x h.1 _ _ _).append (lexes_writeItems hl xs h.2 _ _ _ _)))
  | .map [], _, _, _, _ => Lexes.openMap.append .closeMap
  | .map ((k, v) :: es), h, depth, nesting, keys => by
    obtain ⟨-, ⟨t, rfl, ht⟩, hv, hes⟩ := h
    have hw : write layout depth (.map ((.text t, v) :: es)) =
        layout.enclose depth ['\x7b'] ['\x7d']
          (writeMembers layout (depth + 1) ((.text t, v) :: es)) := rfl
    rw [hw, writeMembers, enclose_cons]
    exact Lexes.openMap.append ((Lexes.gap (hl.newline _)).append
      (((lexes_key hl ht).append (lexes_write hl v hv _ _ _)).append
        (lexes_writeMembers hl es hes _ _ _ _)))

theorem lexes_writeItems (hl : layout.IsFlow) : (xs : List Value) → Value.AreDocuments false xs →
    ∀ (depth outer nesting : Nat) (keys : Bool),
      Lexes (nesting + 1) keys
        ((writeItems layout depth xs).flatMap (layout.itemSeparator ++ layout.newline depth ++ ·) ++
          (layout.newline outer ++ [(']' : CodePoint)])) (itemTokens false xs) nesting false
  | [], _, _, outer, _, _ => (Lexes.gap (hl.newline outer)).append .closeList
  | x :: xs, h, depth, outer, nesting, keys => by
    rw [writeItems, List.flatMap_cons, List.append_assoc, List.append_assoc]
    exact (lexes_separator hl depth keys).append ((lexes_write hl x h.1 _ _ _).append
      (lexes_writeItems hl xs h.2 _ _ _ _))

theorem lexes_writeMembers (hl : layout.IsFlow) : (es : List Entry) → Value.AreMembers false es →
    ∀ (depth outer nesting : Nat) (keys : Bool),
      Lexes (nesting + 1) keys
        ((writeMembers layout depth es).flatMap
            (layout.itemSeparator ++ layout.newline depth ++ ·) ++
          (layout.newline outer ++ [('\x7d' : CodePoint)])) (memberTokens false es) nesting false
  | [], _, _, outer, _, _ => (Lexes.gap (hl.newline outer)).append .closeMap
  | (k, v) :: es, h, depth, outer, nesting, keys => by
    obtain ⟨⟨t, rfl, ht⟩, hv, hes⟩ := h
    have hm := (lexes_separator hl depth keys).append ((lexes_key hl ht).append
      ((lexes_write hl v hv depth _ _).append (lexes_writeMembers hl es hes depth outer nesting _)))
    rw [writeMembers, List.flatMap_cons]
    simp only [List.append_assoc] at hm ⊢
    exact hm
end

/-- The tokens of a written document, with a gap after it. -/
theorem tokens_write (hl : layout.IsFlow) {v : Value} (hv : v.IsDocument false) {gap : Text}
    (hg : IsGap gap) : tokens (write layout 0 v ++ gap) = tokensOf v ++ [.streamEnd] := by
  have h := (lexes_write hl v hv 0 0 true).append (Lexes.gap hg)
  rw [List.append_nil] at h
  exact tokens_of_lexes h

end

end Yaml

end ConnectionProfile
