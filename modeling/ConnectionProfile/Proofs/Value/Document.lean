import ConnectionProfile.Json.Order

/-!
# Documents

Values of texts, nulls, lists, and mappings whose keys are short ASCII names. Such values can be
written as JSON, and what a layout or a reader does to them is done part by part: `arranged` puts
the members of every mapping in order, `mapTexts` changes every text.
-/

namespace ConnectionProfile

/-- A name that a mapping of a document has for a key. -/
def Text.isKeyword (t : Text) : Bool := t.isAscii && t.length ≤ 100

/-- The members in the order of their keys, if they are to be sorted. -/
def Entries.arrange {α : Type} (sort : Bool) (ms : List (Value × α)) : List (Value × α) :=
  if sort then ms.mergeSort fun m n => !Json.keyLt n.1 m.1 else ms

namespace Value

mutual
/-- A document, which holds nulls only where `nulls` allows them. -/
def IsDocument (nulls : Bool) : Value → Prop
  | .null => nulls = true
  | .text _ => True
  | .list xs => AreDocuments nulls xs
  | .map es => (Entries.keys es).Nodup ∧ AreMembers nulls es
  | _ => False

def AreDocuments (nulls : Bool) : List Value → Prop
  | [] => True
  | x :: xs => x.IsDocument nulls ∧ AreDocuments nulls xs

def AreMembers (nulls : Bool) : List Entry → Prop
  | [] => True
  | (k, v) :: es =>
    (∃ t : Text, k = .text t ∧ t.isKeyword = true) ∧ v.IsDocument nulls ∧ AreMembers nulls es
end

mutual
def arranged (sort : Bool) : Value → Value
  | .list xs => .list (arrangedItems sort xs)
  | .map es => .map (Entries.arrange sort (arrangedMembers sort es))
  | v => v

def arrangedItems (sort : Bool) : List Value → List Value
  | [] => []
  | x :: xs => x.arranged sort :: arrangedItems sort xs

def arrangedMembers (sort : Bool) : List Entry → List Entry
  | [] => []
  | (k, v) :: es => (k, v.arranged sort) :: arrangedMembers sort es
end

mutual
/-- The value with every text in it changed. Keys stay. -/
def mapTexts (f : Text → Text) : Value → Value
  | .text t => .text (f t)
  | .list xs => .list (mapTextsItems f xs)
  | .map es => .map (mapTextsMembers f es)
  | v => v

def mapTextsItems (f : Text → Text) : List Value → List Value
  | [] => []
  | x :: xs => x.mapTexts f :: mapTextsItems f xs

def mapTextsMembers (f : Text → Text) : List Entry → List Entry
  | [] => []
  | (k, v) :: es => (k, v.mapTexts f) :: mapTextsMembers f es
end

-- ---------------------------------------------------------------------------
-- Members as lists
-- ---------------------------------------------------------------------------

theorem areMembers_iff {nulls : Bool} {es : List Entry} :
    AreMembers nulls es ↔
      ∀ e ∈ es, (∃ t : Text, e.1 = .text t ∧ t.isKeyword = true) ∧ e.2.IsDocument nulls := by
  induction es with
  | nil => simp [AreMembers]
  | cons e es ih =>
    obtain ⟨k, v⟩ := e
    simp [AreMembers, ih, and_assoc]

theorem arrangedItems_eq_map (sort : Bool) (xs : List Value) :
    arrangedItems sort xs = xs.map (arranged sort) := by
  induction xs with
  | nil => rfl
  | cons x xs ih => simp [arrangedItems, ih]

theorem arrangedMembers_eq_map (sort : Bool) (es : List Entry) :
    arrangedMembers sort es = es.map fun e => (e.1, e.2.arranged sort) := by
  induction es with
  | nil => rfl
  | cons e es ih => simp [arrangedMembers, ih]

theorem mapTextsItems_eq_map (f : Text → Text) (xs : List Value) :
    mapTextsItems f xs = xs.map (mapTexts f) := by
  induction xs with
  | nil => rfl
  | cons x xs ih => simp [mapTextsItems, ih]

theorem mapTextsMembers_eq_map (f : Text → Text) (es : List Entry) :
    mapTextsMembers f es = es.map fun e => (e.1, e.2.mapTexts f) := by
  induction es with
  | nil => rfl
  | cons e es ih => simp [mapTextsMembers, ih]

end Value

-- ---------------------------------------------------------------------------
-- Entries in another order
-- ---------------------------------------------------------------------------

namespace Entries

theorem arrange_perm {α : Type} (sort : Bool) (ms : List (Value × α)) :
    (arrange sort ms).Perm ms := by
  cases sort with
  | true => exact List.mergeSort_perm ms _
  | false => exact .refl _

theorem arrange_ne_nil {α : Type} {sort : Bool} {ms : List (Value × α)} (h : ms ≠ []) :
    arrange sort ms ≠ [] := by
  intro hn
  have hp := arrange_perm sort ms
  rw [hn] at hp
  exact h hp.nil_eq.symm

theorem mem_arrange {α : Type} {sort : Bool} {ms : List (Value × α)} {m : Value × α} :
    m ∈ arrange sort ms ↔ m ∈ ms := (arrange_perm sort ms).mem_iff

/-- Members are ordered by their keys only. -/
theorem arrange_map {α β : Type} (sort : Bool) (f : Value × α → β) (ms : List (Value × α)) :
    arrange sort (ms.map fun m => (m.1, f m)) = (arrange sort ms).map fun m => (m.1, f m) := by
  cases sort with
  | true =>
    simp only [arrange, if_true]
    symm
    apply List.map_mergeSort
    intros
    rfl
  | false => rfl

theorem keys_arrange_perm {α : Type} (sort : Bool) (ms : List (Value × α)) :
    (keys (arrange sort ms)).Perm (keys ms) := (arrange_perm sort ms).map Prod.fst

theorem get?_perm {es fs : List Entry} (h : es.Perm fs) (hn : (keys es).Nodup) (key : Text) :
    get? key es = get? key fs := by
  induction h with
  | nil => rfl
  | cons e _ ih =>
    obtain ⟨k, v⟩ := e
    have ih := ih (List.nodup_cons.1 hn).2
    cases k <;> simp [get?, ih]
  | swap e f es =>
    obtain ⟨k, v⟩ := e
    obtain ⟨l, w⟩ := f
    have hkl : l ≠ k := by
      rintro rfl
      simp [keys] at hn
    cases k with
    | text k =>
      cases l with
      | text l =>
        have hkl : l ≠ k := fun h => hkl (by rw [h])
        by_cases hk : k = key
        · subst hk
          simp [get?, hkl]
        · simp [get?, hk]
      | _ => simp [get?]
    | _ => cases l <;> simp [get?]
  | trans hp _ ih₁ ih₂ =>
    exact (ih₁ hn).trans (ih₂ ((hp.map Prod.fst).nodup hn))

theorem get?_arrange {es : List Entry} (sort : Bool) (hn : (keys es).Nodup) (key : Text) :
    get? key (arrange sort es) = get? key es :=
  (get?_perm (arrange_perm sort es).symm hn key).symm

theorem notMem_keys_of_nodup {before es : List Entry} {k v : Value}
    (h : (keys (before ++ (k, v) :: es)).Nodup) : k ∉ keys before := by
  rw [keys, List.map_append, List.nodup_append] at h
  exact fun hk => h.2.2 _ hk _ (by simp) rfl

theorem putText_of_notMem {k : Text} {v : Value} {es : List Entry}
    (h : .text k ∉ keys es) : putText k v es = es ++ [(.text k, v)] := by
  induction es with
  | nil => rfl
  | cons e es ih =>
    obtain ⟨l, w⟩ := e
    simp only [keys, List.map_cons, List.mem_cons, not_or] at h
    have hl : ¬l.sameKey (.text k) = true := fun hl => h.1 (Value.sameKey_text.1 hl).symm
    have ih : put (.text k) v es = es ++ [(.text k, v)] := ih h.2
    rw [putText, put, if_neg hl, ih, List.cons_append]

/-- Entries with different texts for keys are a mapping as they are. -/
theorem ofList_of_nodup {es : List Entry} (ht : ∀ k ∈ keys es, ∃ t : Text, k = .text t)
    (hn : (keys es).Nodup) : ofList es = es := by
  have hf : ∀ before : List Entry, (keys (before ++ es)).Nodup →
      es.foldl (fun acc (e : Entry) => put e.1 e.2 acc) before = before ++ es := by
    clear hn
    induction es with
    | nil => simp
    | cons e es ih =>
      intro before hn
      obtain ⟨k, v⟩ := e
      obtain ⟨t, rfl⟩ := ht k (List.mem_cons_self ..)
      have hput : put (.text t) v before = before ++ [(.text t, v)] :=
        putText_of_notMem (notMem_keys_of_nodup hn)
      rw [List.foldl_cons, hput, ih (fun l hl => ht l (List.mem_cons_of_mem _ hl)),
        List.append_assoc]
      · rfl
      · rwa [List.append_assoc]
  exact hf [] hn

/-- Members are looked up by their keys only. -/
theorem get?_map (f : Entry → Value) (key : Text) (es : List Entry) :
    get? key (es.map fun e => (e.1, f e)) = (get? key es).map fun v => f (.text key, v) := by
  induction es with
  | nil => rfl
  | cons e es ih =>
    obtain ⟨k, v⟩ := e
    cases k with
    | text k =>
      by_cases h : k = key
      · simp [get?, h]
      · simp [get?, h, ih]
    | _ => simpa [get?] using ih

theorem get?_arrangedMembers (sort : Bool) (key : Text) (es : List Entry) :
    get? key (Value.arrangedMembers sort es) = (get? key es).map (Value.arranged sort) := by
  rw [Value.arrangedMembers_eq_map, get?_map]

theorem get?_mapTextsMembers (f : Text → Text) (key : Text) (es : List Entry) :
    get? key (Value.mapTextsMembers f es) = (get? key es).map (Value.mapTexts f) := by
  rw [Value.mapTextsMembers_eq_map, get?_map]

theorem keys_arrangedMembers (sort : Bool) (es : List Entry) :
    keys (Value.arrangedMembers sort es) = keys es := by
  simp [keys, Value.arrangedMembers_eq_map]

theorem keys_mapTextsMembers (f : Text → Text) (es : List Entry) :
    keys (Value.mapTextsMembers f es) = keys es := by
  simp [keys, Value.mapTextsMembers_eq_map]

end Entries

namespace Value

mutual
theorem IsDocument.arranged {nulls sort : Bool} : (v : Value) → v.IsDocument nulls →
    (v.arranged sort).IsDocument nulls
  | .null, h => h
  | .text _, h => h
  | .list xs, h => AreDocuments.arranged xs h
  | .map es, h => by
    have ha : AreMembers nulls (arrangedMembers sort es) := AreMembers.arranged es h.2
    have hm := areMembers_iff.1 ha
    refine ⟨?_, areMembers_iff.2 fun e he => hm e (Entries.mem_arrange.1 he)⟩
    rw [(Entries.keys_arrange_perm sort _).nodup_iff, Entries.keys_arrangedMembers]
    exact h.1

theorem AreDocuments.arranged {nulls sort : Bool} : (xs : List Value) → AreDocuments nulls xs →
    AreDocuments nulls (arrangedItems sort xs)
  | [], _ => trivial
  | x :: xs, h => ⟨IsDocument.arranged x h.1, AreDocuments.arranged xs h.2⟩

theorem AreMembers.arranged {nulls sort : Bool} : (es : List Entry) → AreMembers nulls es →
    AreMembers nulls (arrangedMembers sort es)
  | [], _ => trivial
  | (_, v) :: es, h => ⟨h.1, IsDocument.arranged v h.2.1, AreMembers.arranged es h.2.2⟩
end

mutual
theorem arranged_mapTexts (f : Text → Text) (sort : Bool) : (v : Value) →
    (v.mapTexts f).arranged sort = (v.arranged sort).mapTexts f
  | .list xs => by simp only [mapTexts, arranged, arrangedItems_mapTexts f sort xs]
  | .map es => by
    simp only [mapTexts, arranged, arrangedMembers_mapTexts f sort es]
    rw [mapTextsMembers_eq_map, mapTextsMembers_eq_map]
    exact congrArg Value.map (Entries.arrange_map sort (fun e : Entry => e.2.mapTexts f) _)
  | .null | .bool _ | .int _ | .float _ | .text _ | .octets _ | .set _ | .pair _ _ | .date _
  | .dateTime _ => rfl

theorem arrangedItems_mapTexts (f : Text → Text) (sort : Bool) : (xs : List Value) →
    arrangedItems sort (mapTextsItems f xs) = mapTextsItems f (arrangedItems sort xs)
  | [] => rfl
  | x :: xs => by
    simp only [mapTextsItems, arrangedItems, arranged_mapTexts f sort x,
      arrangedItems_mapTexts f sort xs]

theorem arrangedMembers_mapTexts (f : Text → Text) (sort : Bool) : (es : List Entry) →
    arrangedMembers sort (mapTextsMembers f es) = mapTextsMembers f (arrangedMembers sort es)
  | [] => rfl
  | (_, v) :: es => by
    simp only [mapTextsMembers, arrangedMembers, arranged_mapTexts f sort v,
      arrangedMembers_mapTexts f sort es]
end

end Value

end ConnectionProfile
