import ConnectionProfile.Proofs.Json.Escapes
import ConnectionProfile.Proofs.Logged
import ConnectionProfile.Proofs.Value.Document
import ConnectionProfile.Value.Display

/-!
# Documents written as JSON

Documents are always printed. `print_document` says how: the members are put in order first, and
then every part is written in its place by `write`, which needs no order and cannot fail.
-/

namespace ConnectionProfile.Json

mutual
def write (layout : Layout) (depth : Nat) : Value → Text
  | .text t => quote layout.ascii t
  | .list [] => "[]"
  | .list xs => layout.enclose depth "[" "]" (writeItems layout (depth + 1) xs)
  | .map [] => "\x7b\x7d"
  | .map es => layout.enclose depth "\x7b" "\x7d" (writeMembers layout (depth + 1) es)
  | _ => "null"

def writeItems (layout : Layout) (depth : Nat) : List Value → List Text
  | [] => []
  | x :: xs => write layout depth x :: writeItems layout depth xs

def writeMembers (layout : Layout) (depth : Nat) : List Entry → List Text
  | [] => []
  | (k, v) :: es =>
    (quote layout.ascii k.plain ++ layout.keySeparator ++ write layout depth v) ::
      writeMembers layout depth es
end

def writeMember (layout : Layout) (depth : Nat) (e : Entry) : Text :=
  quote layout.ascii e.1.plain ++ layout.keySeparator ++ write layout depth e.2

theorem quote_append (ascii : Bool) (t rest : Text) :
    quote ascii t ++ rest =
      ('"' : CodePoint) :: (t.flatMap (escapeOne ascii) ++ ('"' : CodePoint) :: rest) := by
  simp only [quote, List.append_assoc]
  rfl

theorem joinWith_cons (sep t : Text) (ts : List Text) :
    Text.joinWith sep (t :: ts) = t ++ ts.flatMap (sep ++ ·) := by
  induction ts generalizing t with
  | nil => simp [Text.joinWith]
  | cons u ts ih => simp [Text.joinWith, ih]

/-- The parts of a collection, one after the other. -/
theorem enclose_cons (layout : Layout) (depth : Nat) (c d : CodePoint) (t : Text) (ts : List Text) :
    layout.enclose depth [c] [d] (t :: ts) =
      c :: (layout.newline (depth + 1) ++ (t ++
        (ts.flatMap (layout.itemSeparator ++ layout.newline (depth + 1) ++ ·) ++
          (layout.newline depth ++ [d])))) := by
  simp [Layout.enclose, joinWith_cons]

theorem Layout.mem_newline {layout : Layout} {depth : Nat} {c : CodePoint}
    (h : c ∈ layout.newline depth) : c = '\n' ∨ ∃ step, layout.indent = some step ∧ c ∈ step := by
  unfold newline at h
  cases hi : layout.indent with
  | none =>
    rw [hi] at h
    cases h
  | some step =>
    rw [hi] at h
    rcases List.mem_append.1 h with h | h
    · exact .inl (List.mem_singleton.1 h)
    · obtain ⟨t, ht, hc⟩ := List.mem_flatten.1 h
      exact .inr ⟨step, rfl, List.eq_of_mem_replicate ht ▸ hc⟩

theorem writeMembers_eq_map (layout : Layout) (depth : Nat) (es : List Entry) :
    writeMembers layout depth es = es.map (writeMember layout depth) := by
  induction es with
  | nil => rfl
  | cons e es ih => simp [writeMembers, writeMember, ih]

theorem write_map {layout : Layout} {depth : Nat} {es : List Entry} (h : es ≠ []) :
    write layout depth (.map es) =
      layout.enclose depth "\x7b" "\x7d" (writeMembers layout (depth + 1) es) := by
  cases es with
  | nil => exact absurd rfl h
  | cons e es => rfl

-- ---------------------------------------------------------------------------
-- Members in order
-- ---------------------------------------------------------------------------

section
variable {α : Type} {ms : List (Value × α)}

theorem haveOrder_of_texts {ks : List Value} (h : ∀ k ∈ ks, ∃ t : Text, k = .text t) :
    haveOrder ks = true := by
  match ks with
  | [] | [_] => rfl
  | k :: l :: ks =>
    obtain ⟨t, rfl⟩ := h k (by simp)
    simp only [haveOrder, KeyKind.of?, Option.any_some, List.all_eq_true]
    intro m hm
    obtain ⟨u, rfl⟩ := h m (List.mem_cons_of_mem _ hm)
    simp

/-- Members with texts for keys have an order. -/
theorem sortMembers?_of_texts (h : ∀ m ∈ ms, ∃ t : Text, m.1 = .text t) :
    sortMembers? ms = some (Entries.arrange true ms) := by
  have ho : haveOrder (ms.map Prod.fst) = true := by
    apply haveOrder_of_texts
    intro k hk
    obtain ⟨m, hm, rfl⟩ := List.mem_map.1 hk
    exact h m hm
  have hn : ms.any (isNan ·.1) = false := by
    rw [List.any_eq_false]
    intro m hm
    obtain ⟨t, ht⟩ := h m hm
    simp [ht, isNan]
  simp [sortMembers?, ho, hn, Entries.arrange]

/-- A layout puts members with texts for keys in order, and leaves none of them out. -/
theorem arrange_of_texts {ms : List Member} (layout : Layout)
    (h : ∀ m ∈ ms, ∃ t : Text, m.1 = .text t) :
    layout.arrange ms = .ok (Entries.arrange layout.sortKeys ms) := by
  have hk : (if layout.skipKeys then (Entries.arrange layout.sortKeys ms).filter (hasKeyText ·.1)
      else Entries.arrange layout.sortKeys ms) = Entries.arrange layout.sortKeys ms := by
    rw [List.filter_eq_self.2, ite_self]
    intro m hm
    obtain ⟨t, ht⟩ := h m (Entries.mem_arrange.1 hm)
    simp [ht, hasKeyText]
  cases hs : layout.sortKeys with
  | true =>
    rw [hs] at hk
    simp only [Layout.arrange, hs, if_true, sortMembers?_of_texts h]
    exact congrArg Except.ok hk
  | false =>
    rw [hs] at hk
    simp only [Layout.arrange, hs, Bool.false_eq_true, if_false]
    exact congrArg Except.ok hk

end

theorem mapM_snd_ok {α β ε : Type} (f : α → β) (k : α → Value) (xs : List α) :
    (xs.map fun x => (k x, (.ok (f x) : Except ε β))).mapM Prod.snd = .ok (xs.map f) := by
  induction xs with
  | nil => rfl
  | cons x xs ih =>
    rw [List.map_cons, List.mapM_cons, ih]
    rfl

-- ---------------------------------------------------------------------------
-- Documents
-- ---------------------------------------------------------------------------

mutual
theorem print_document {nulls : Bool} (layout : Layout) : (depth : Nat) → (v : Value) →
    v.IsDocument nulls →
      print layout depth v = .ok (write layout depth (v.arranged layout.sortKeys))
  | _, .null, _ => rfl
  | _, .text _, _ => rfl
  | _, .list [], _ => rfl
  | depth, .list (x :: xs), h => by
    simp only [print, printItems_document layout (depth + 1) (x :: xs) h]
    rfl
  | depth, .map [], _ => by
    cases hs : layout.sortKeys <;> simp [print, Value.arranged, Value.arrangedMembers,
      Entries.arrange, write]
  | depth, .map (e :: es), h => by
    have hne : Entries.arrange layout.sortKeys (Value.arrangedMembers layout.sortKeys (e :: es)) ≠
        [] := Entries.arrange_ne_nil (by simp [Value.arrangedMembers])
    -- The keys are texts, so the members have an order whatever their values are.
    have ht : ∀ m ∈ (Value.arrangedMembers layout.sortKeys (e :: es)).map fun e =>
        (e.1, (.ok (writeMember layout (depth + 1) e) : Except PrintError Text)),
        ∃ t : Text, m.1 = .text t := by
      intro m hm
      obtain ⟨d, hd, rfl⟩ := List.mem_map.1 hm
      obtain ⟨⟨t, hk, -⟩, -⟩ := Value.areMembers_iff.1 (h.2.arranged) d hd
      exact ⟨t, hk⟩
    simp only [print, printMembers_document layout (depth + 1) (e :: es) h.2]
    rw [arrange_of_texts layout ht, Entries.arrange_map, Value.arranged, write_map hne,
      writeMembers_eq_map]
    change (do return layout.enclose depth _ _ (← List.mapM Prod.snd _) :
      Except PrintError Text) = _
    rw [mapM_snd_ok]
    rfl

theorem printItems_document {nulls : Bool} (layout : Layout) : (depth : Nat) → (xs : List Value) →
    Value.AreDocuments nulls xs →
    printItems layout depth xs =
      .ok (writeItems layout depth (Value.arrangedItems layout.sortKeys xs))
  | _, [], _ => rfl
  | depth, x :: xs, h => by
    simp only [printItems, print_document layout depth x h.1,
      printItems_document layout depth xs h.2]
    rfl

theorem printMembers_document {nulls : Bool} (layout : Layout) : (depth : Nat) →
    (es : List Entry) → Value.AreMembers nulls es →
    printMembers layout depth es = (Value.arrangedMembers layout.sortKeys es).map fun e =>
      (e.1, .ok (writeMember layout depth e))
  | _, [], _ => rfl
  | depth, (k, v) :: es, h => by
    obtain ⟨⟨t, rfl, -⟩, hv, hes⟩ := h
    simp only [printMembers, print_document layout depth v hv,
      printMembers_document layout depth es hes]
    rfl
end

-- ---------------------------------------------------------------------------
-- Changed texts
-- ---------------------------------------------------------------------------

theorem escapeOne_of_le {c : CodePoint} (h : 0x7F ≤ c.val) (hl : c.val < 0x10000) :
    escapeOne true c = escapeUnit c.val := by
  have he := escaped_escapeOne true c
  generalize escapeOne true c = t at he ⊢
  cases he with
  | short hs => exact absurd (lt_of_mem_shortEscapes hs) (Nat.not_lt.2 h)
  | control | unit => rfl
  | pair => omega
  | plain _ ha => exact absurd (ha rfl) (Nat.not_lt.2 h)

/-- In ASCII a code point beyond sixteen bits is written like its two surrogates. -/
theorem escapes_halvesOf (c : CodePoint) :
    (Wide.halvesOf c).flatMap (escapeOne true) = escapeOne true c := by
  have hone (h : c.val < 0x10000) :
      (Wide.halvesOf c).flatMap (escapeOne true) = escapeOne true c := by
    rw [Wide.halvesOf_of_lt h, List.flatMap_singleton]
  have he := escaped_escapeOne true c
  generalize escapeOne true c = t at he hone ⊢
  cases he with
  | short h =>
    have := lt_of_mem_shortEscapes h
    exact hone (by omega)
  | control h => exact hone (by omega)
  | unit _ _ h => exact hone h
  | pair _ h =>
    have hhigh := CodePoint.between_iff.1 (Wide.isHighSurrogate_high c)
    have hlow := CodePoint.between_iff.1 (Wide.isLowSurrogate_low c)
    rw [Wide.halvesOf_of_le h, List.flatMap_cons, List.flatMap_singleton,
      escapeOne_of_le (by omega) (by omega), escapeOne_of_le (by omega) (by omega)]
  | plain _ ha => exact hone (Nat.lt_trans (ha rfl) (by decide))

theorem quote_halves (t : Text) : quote true (Wide.halves t) = quote true t := by
  have he : (Wide.halves t).flatMap (escapeOne true) = t.flatMap (escapeOne true) := by
    induction t with
    | nil => rfl
    | cons c t ih =>
      rw [Wide.halves_cons, List.flatMap_append, escapes_halvesOf, ih, List.flatMap_cons]
  rw [quote, he, quote]

section
variable {layout : Layout} {f : Text → Text}

mutual
/-- A change that no quoted text shows is none that a written value shows. -/
theorem write_mapTexts (hf : ∀ t, quote layout.ascii (f t) = quote layout.ascii t) :
    (depth : Nat) → (v : Value) → write layout depth (v.mapTexts f) = write layout depth v
  | _, .text t => hf t
  | _, .list [] => rfl
  | depth, .list (x :: xs) =>
    congrArg (layout.enclose depth _ _) (writeItems_mapTexts hf (depth + 1) (x :: xs))
  | _, .map [] => rfl
  | depth, .map ((k, v) :: es) =>
    congrArg (layout.enclose depth _ _) (writeMembers_mapTexts hf (depth + 1) ((k, v) :: es))
  | _, .null | _, .bool _ | _, .int _ | _, .float _ | _, .octets _ | _, .set _ | _, .pair _ _
  | _, .date _ | _, .dateTime _ => rfl

theorem writeItems_mapTexts (hf : ∀ t, quote layout.ascii (f t) = quote layout.ascii t) :
    (depth : Nat) → (xs : List Value) →
      writeItems layout depth (Value.mapTextsItems f xs) = writeItems layout depth xs
  | _, [] => rfl
  | depth, x :: xs => by
    rw [Value.mapTextsItems, writeItems, write_mapTexts hf depth x,
      writeItems_mapTexts hf depth xs, writeItems]

theorem writeMembers_mapTexts (hf : ∀ t, quote layout.ascii (f t) = quote layout.ascii t) :
    (depth : Nat) → (es : List Entry) →
      writeMembers layout depth (Value.mapTextsMembers f es) = writeMembers layout depth es
  | _, [] => rfl
  | depth, (k, v) :: es => by
    rw [Value.mapTextsMembers, writeMembers, write_mapTexts hf depth v,
      writeMembers_mapTexts hf depth es, writeMembers]
end

end

end ConnectionProfile.Json
