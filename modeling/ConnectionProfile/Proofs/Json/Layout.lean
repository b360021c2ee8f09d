import ConnectionProfile.Json.Layout
import ConnectionProfile.Json.Token
import ConnectionProfile.Proofs.Json.Written

/-!
# Spaced layouts

A spaced layout puts blanks between the tokens and nothing else. It comes from options that ask for
blanks around one comma and one colon, and for a number of spaces or for blanks to indent with.
-/

namespace ConnectionProfile.Json

def IsSpaces (t : Text) : Prop := ∀ c ∈ t, isSpace c = true

instance (t : Text) : Decidable (IsSpaces t) := List.decidableBAll _ t

/-- A mark with blanks around it. -/
def IsSpacedMark (mark : CodePoint) (t : Text) : Prop :=
  ∃ before after, t = before ++ mark :: after ∧ IsSpaces before ∧ IsSpaces after

/-- Between the tokens the layout puts blanks only, one comma after each item, and one colon after
each key. -/
structure Layout.IsSpaced (layout : Layout) : Prop where
  indent : ∀ step, layout.indent = some step → IsSpaces step
  item : IsSpacedMark ',' layout.itemSeparator
  key : IsSpacedMark ':' layout.keySeparator

theorem IsSpaces.append {t u : Text} (ht : IsSpaces t) (hu : IsSpaces u) : IsSpaces (t ++ u) := by
  intro c hc
  exact (List.mem_append.1 hc).elim (ht c) (hu c)

theorem Layout.IsSpaced.newline {layout : Layout} (h : layout.IsSpaced) (depth : Nat) :
    IsSpaces (layout.newline depth) := by
  intro c hc
  obtain rfl | ⟨step, hi, hc⟩ := Layout.mem_newline hc
  · rfl
  · exact h.indent step hi c hc

section
variable {layout : Layout}

theorem Layout.IsSpaced.separator (h : layout.IsSpaced) (depth : Nat) :
    IsSpacedMark ',' (layout.itemSeparator ++ layout.newline depth) := by
  obtain ⟨before, after, hi, hb, ha⟩ := h.item
  exact ⟨before, after ++ layout.newline depth, by rw [hi, List.append_assoc]; rfl, hb,
    ha.append (h.newline depth)⟩

theorem Layout.IsSpaced.finish (h : layout.IsSpaced) (depth : Nat) (c : CodePoint) :
    IsSpacedMark c (layout.newline depth ++ [c]) :=
  ⟨_, [], rfl, h.newline depth, fun _ hc => nomatch hc⟩

end

-- ---------------------------------------------------------------------------
-- Options
-- ---------------------------------------------------------------------------

namespace Layout

/-- The options that a spaced layout may set. -/
def spacingNames : List Text := ["indent", "sort_keys", "ensure_ascii", "separators"]

/-- Options of a spaced layout. What they say of the order and of ASCII is left open. -/
structure AreSpacing (options : List Entry) : Prop where
  names : ∀ k ∈ Entries.keys options, ∃ name ∈ spacingNames, k = .text name
  indent : ∀ v, Entries.get? "indent" options = some v →
    v = .null ∨ (∃ b, v = .bool b) ∨ (∃ i, v = .int i) ∨ ∃ t, v = .text t ∧ IsSpaces t
  separators : ∀ v, Entries.find? "separators" options = some v →
    ∃ item key : Text, separatorsOf v = .ok (.text item, .text key) ∧ IsSpacedMark ',' item ∧
      IsSpacedMark ':' key

/-- Whether the options ask for ASCII only. -/
def asksAscii (options : List Entry) : Bool :=
  ((Entries.get? "ensure_ascii" options).map Value.isYes).getD true

/-- An integer that is to indent by is one of sixty-four bits. -/
def IndentFits (options : List Entry) : Prop :=
  ∀ i, Entries.get? "indent" options = some (.int i) → -indentLimit ≤ i ∧ i < indentLimit

theorem AreSpacing.get?_eq_none {options : List Entry} (h : AreSpacing options) {key : Text}
    (hk : key ∉ spacingNames) : Entries.get? key options = none := by
  have hn := h.names
  clear h
  induction options with
  | nil => rfl
  | cons e es ih =>
    obtain ⟨k, v⟩ := e
    obtain ⟨name, hname, rfl⟩ := hn k (List.mem_cons_self ..)
    have hne : name ≠ key := by rintro rfl; exact hk hname
    rw [Entries.get?, if_neg hne]
    exact ih fun l hl => hn l (List.mem_cons_of_mem _ hl)

theorem AreSpacing.find?_unknown {options : List Entry} (h : AreSpacing options) :
    (Entries.keys options).find? (!isKnownOption ·) = none := by
  rw [List.find?_eq_none]
  intro k hk
  obtain ⟨name, hname, rfl⟩ := h.names k hk
  have hall : ∀ name ∈ spacingNames, optionNames.elem name = true := by decide
  rw [isKnownOption, hall name hname]
  decide

/-- The separators that are set, if any are. -/
theorem AreSpacing.given {options : List Entry} (h : AreSpacing options) :
    ∃ given : Option (Text × Text), (Entries.find? "separators" options).mapM separatorsOf =
        (.ok (given.map (Prod.map .text .text)) : Except LayoutError _) ∧
      ∀ pair ∈ given, IsSpacedMark ',' pair.1 ∧ IsSpacedMark ':' pair.2 := by
  cases hf : Entries.find? "separators" options with
  | none => exact ⟨none, rfl, by simp⟩
  | some v =>
    obtain ⟨item, key, hv, hi, hk⟩ := h.separators v hf
    refine ⟨some (item, key), by rw [Option.mapM_some, hv]; rfl, ?_⟩
    rintro _ ⟨⟩
    exact ⟨hi, hk⟩

/-- The layout with the given separators and with what the options say besides. -/
def spacing (options : List Entry) (given : Option (Text × Text)) (indent : Option Text) : Layout :=
  let flag (name : Text) (usual : Bool) : Bool :=
    ((Entries.get? name options).map Value.isYes).getD usual
  { indent
    itemSeparator := (given.getD (defaultSeparators indent)).1
    keySeparator := (given.getD (defaultSeparators indent)).2
    sortKeys := flag "sort_keys" false
    ascii := flag "ensure_ascii" true
    skipKeys := flag "skipkeys" false
    allowNan := flag "allow_nan" true }

theorem AreSpacing.ofOptions_eq {options : List Entry} (h : AreSpacing options)
    {given : Option (Text × Text)}
    (hg : (Entries.find? "separators" options).mapM separatorsOf =
      .ok (given.map (Prod.map .text .text))) :
    ofOptions options =
      (indentOf ((Entries.get? "indent" options).getD .null)).map (spacing options given) := by
  have hc : Entries.find? "cls" options = none := by
    rw [Entries.find?, h.get?_eq_none (by decide)]
  unfold ofOptions
  simp only [h.find?_unknown, hc, hg, Option.isSome_none, Bool.false_eq_true, if_false]
  cases indentOf ((Entries.get? "indent" options).getD .null) with
  | error e => rfl
  | ok indent => cases given <;> rfl

theorem isSpacedMark_default (indent : Option Text) :
    IsSpacedMark ',' (defaultSeparators indent).1 ∧
      IsSpacedMark ':' (defaultSeparators indent).2 := by
  have hs : IsSpaces [' '] := by simp [IsSpaces]; rfl
  have h0 : IsSpaces [] := fun _ hc => nomatch hc
  refine ⟨?_, [], [' '], rfl, h0, hs⟩
  cases indent with
  | none => exact ⟨[], [' '], rfl, h0, hs⟩
  | some _ => exact ⟨[], [], rfl, h0, h0⟩

theorem isSpaced_spacing {options : List Entry} {given : Option (Text × Text)}
    {indent : Option Text}
    (hg : ∀ pair ∈ given, IsSpacedMark ',' pair.1 ∧ IsSpacedMark ':' pair.2)
    (hi : ∀ step ∈ indent, IsSpaces step) : (spacing options given indent).IsSpaced := by
  have hm : IsSpacedMark ',' (given.getD (defaultSeparators indent)).1 ∧
      IsSpacedMark ':' (given.getD (defaultSeparators indent)).2 := by
    cases given with
    | none => exact isSpacedMark_default indent
    | some pair => exact hg pair rfl
  exact ⟨hi, hm.1, hm.2⟩

theorem isSpaces_of_indentOf {v : Value} {indent : Option Text} (h : indentOf v = .ok indent)
    (hv : ∀ t, v = .text t → IsSpaces t) : ∀ step ∈ indent, IsSpaces step := by
  have hspaces (n : Nat) : IsSpaces (List.replicate n ' ') := fun c hc => by
    rw [List.eq_of_mem_replicate hc]
    rfl
  rintro step ⟨⟩
  cases v with
  | text t =>
    cases h
    exact hv _ rfl
  | int i =>
    rw [indentOf] at h
    split at h
    · cases h
    · cases h
      exact hspaces _
  | bool b =>
    cases h
    cases b with
    | true => exact hspaces 1
    | false => exact hspaces 0
  | _ => cases h

theorem get?_of_getD {options : List Entry} {k t : Text}
    (h : (Entries.get? k options).getD .null = .text t) : Entries.get? k options = some (.text t) := by
  cases hv : Entries.get? k options with
  | none =>
    rw [hv] at h
    cases h
  | some v =>
    rw [hv] at h
    exact congrArg some h

theorem ofOptions_ok {options : List Entry} (h : AreSpacing options) (hi : IndentFits options) :
    ∃ layout, ofOptions options = .ok layout ∧ layout.IsSpaced ∧
      layout.ascii = asksAscii options := by
  obtain ⟨given, hg, hpair⟩ := h.given
  obtain ⟨indent, hindent⟩ : ∃ indent,
      indentOf ((Entries.get? "indent" options).getD .null) = .ok indent := by
    cases hv : Entries.get? "indent" options with
    | none => exact ⟨_, rfl⟩
    | some v =>
      obtain rfl | ⟨b, rfl⟩ | ⟨i, rfl⟩ | ⟨t, rfl, -⟩ := h.indent v hv
      · exact ⟨_, rfl⟩
      · exact ⟨_, rfl⟩
      · have hfit := hi i hv
        exact ⟨_, by rw [Option.getD_some, indentOf, if_neg (by omega)]⟩
      · exact ⟨_, rfl⟩
  have hstep : ∀ step ∈ indent, IsSpaces step := by
    refine isSpaces_of_indentOf hindent fun t ht => ?_
    obtain hv | ⟨_, hv⟩ | ⟨_, hv⟩ | ⟨_, hv, hs⟩ := h.indent _ (get?_of_getD ht) <;> cases hv
    exact hs
  refine ⟨spacing options given indent, ?_, isSpaced_spacing hpair hstep, rfl⟩
  rw [h.ofOptions_eq hg, hindent]
  rfl

theorem ofOptions_indentTooLarge {options : List Entry} (h : AreSpacing options)
    (hi : ¬IndentFits options) : ofOptions options = .error .indentTooLarge := by
  obtain ⟨given, hg, -⟩ := h.given
  obtain ⟨i, hv, hfit⟩ : ∃ i, Entries.get? "indent" options = some (.int i) ∧
      ¬(-indentLimit ≤ i ∧ i < indentLimit) := by
    simpa [IndentFits] using hi
  have hindent : indentOf (.int i) = .error .indentTooLarge := by
    rw [indentOf, if_pos (by omega)]
  rw [h.ofOptions_eq hg, hv, Option.getD_some, hindent]
  rfl

/-- The options name no separators, and a text that they indent by is blank. -/
structure AddOnlyBlanks (options : List Entry) : Prop where
  separators : Entries.find? "separators" options = none
  indent : ∀ t, Entries.get? "indent" options = some (.text t) → IsSpaces t

theorem AddOnlyBlanks.isSpaced {options : List Entry} (h : AddOnlyBlanks options) {layout : Layout}
    (ho : ofOptions options = .ok layout) : layout.IsSpaced := by
  unfold ofOptions at ho
  simp only [h.separators] at ho
  split at ho
  · cases ho
  split at ho
  · cases ho
  obtain ⟨given, hg, ho⟩ := Except.bind_ok.1 ho
  cases hg
  obtain ⟨indent, hi, ⟨⟩⟩ := Except.bind_ok.1 ho
  have hstep := isSpaces_of_indentOf hi fun t ht => h.indent t (get?_of_getD ht)
  have hm := isSpacedMark_default indent
  exact ⟨hstep, hm.1, hm.2⟩

end Layout

end ConnectionProfile.Json
