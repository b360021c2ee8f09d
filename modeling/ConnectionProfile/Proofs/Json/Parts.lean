import ConnectionProfile.Proofs.Json.Numerals
import Mathlib.Data.List.Forall2

/-!
# Values in their place

Any value that is printed is read as one value in every place, or is bad in every place. So what is
read of one part of a document does not depend on the other parts, whatever they hold.
-/

namespace ConnectionProfile

namespace Entries

/-- The mapping after further members were put. -/
def putAll (es : List Entry) (members : List (Text × Value)) : List Entry :=
  members.foldl (fun es (k, v) => putText k v es) es

/-- What is put under a key every time is what stands there. -/
theorem get?_putAll {key : Text} {v : Value} {members : List (Text × Value)} {es : List Entry}
    (hv : ∀ m ∈ members, m.1 = key → m.2 = v)
    (hk : get? key es = some v ∨ ∃ m ∈ members, m.1 = key) :
    get? key (putAll es members) = some v := by
  induction members generalizing es with
  | nil => simpa [putAll] using hk
  | cons m members ih =>
    obtain ⟨k, w⟩ := m
    refine ih (fun m hm => hv m (List.mem_cons_of_mem _ hm)) ?_
    rw [get?_putText]
    by_cases h : k = key
    · have hw : w = v := hv (k, w) (List.mem_cons_self ..) h
      rw [if_pos h, hw]
      exact .inl rfl
    · rw [if_neg h]
      simpa [h] using hk

end Entries

namespace Json

open Reader (run run_mark run_spaces run_spacedMark run_of_tokens)

-- ---------------------------------------------------------------------------
-- Delimiters
-- ---------------------------------------------------------------------------

theorem isDelimited_nil : IsDelimited [] := fun _ hc => nomatch hc

theorem mem_delimiters_of_isSpace {c : CodePoint} (h : isSpace c = true) : c ∈ delimiters := by
  simp only [isSpace, Bool.or_eq_true, decide_eq_true_eq] at h
  rcases h with ((rfl | rfl) | rfl) | rfl <;> decide

theorem IsSpacedMark.isDelimited {c : CodePoint} {t : Text} (h : IsSpacedMark c t)
    (hc : c ∈ delimiters) (rest : Text) : IsDelimited (t ++ rest) := by
  obtain ⟨before, after, rfl, hb, -⟩ := h
  cases before with
  | nil =>
    rintro _ ⟨⟩
    exact hc
  | cons d before =>
    rintro _ ⟨⟩
    exact mem_delimiters_of_isSpace (hb d (List.mem_cons_self ..))

-- ---------------------------------------------------------------------------
-- Parts
-- ---------------------------------------------------------------------------

/-- In every place the text is read as one value, or is bad. -/
structure Reads (t : Text) (o : Except ReadError Value) : Prop where
  value (fs : List Frame) {rest : Text} (hr : IsDelimited rest) :
    run (.value fs) (t ++ rest) = o >>= fun v => run (.complete v fs) rest
  /-- It does not start like the end of a list. -/
  start {rest : Text} (hr : IsDelimited rest) : ∃ m ms, tokens (t ++ rest) = m :: ms ∧
    m ≠ .closeList

/-- In every place the text is read as one member of a mapping, or is bad. -/
structure ReadsMember (t k : Text) (o : Except ReadError Value) : Prop where
  firstKey (fs : List Frame) {rest : Text} (hr : IsDelimited rest) :
    run (.firstKey fs) (t ++ rest) = o >>= fun v => run (.complete v (.members [] k :: fs)) rest
  key (before : List Entry) (fs : List Frame) {rest : Text} (hr : IsDelimited rest) :
    run (.key before fs) (t ++ rest) =
      o >>= fun v => run (.complete v (.members before k :: fs)) rest

theorem reads_of_token {t : Text} {m : Token} {v : Value}
    (ht : ∀ rest, tokens (t ++ rest) = m :: tokens rest)
    (hs : ∀ fs, Reader.step (.value fs) m = .ok (.complete v fs)) (hm : m ≠ .closeList) :
    Reads t (.ok v) where
  value fs rest _ := run_of_tokens (ht rest) (hs fs)
  start {rest} _ := ⟨m, tokens rest, ht rest, hm⟩

theorem reads_quote (ascii : Bool) (t : Text) :
    Reads (quote ascii t) (.ok (.text (readText ascii t))) :=
  reads_of_token (tokens_quote ascii t) (fun _ => rfl) nofun

theorem word?_of_mem {w : Text} {v : Value} (h : (w, v) ∈ words) (rest : Text) :
    word? (w ++ rest) = some (v, rest) := by
  have ha : Text.after? (w ++ rest) w = some rest := Text.after?_eq_some.2 rfl
  simp only [words, List.mem_cons, Prod.mk.injEq, List.not_mem_nil, or_false] at h
  rcases h with ⟨rfl, rfl⟩ | ⟨rfl, rfl⟩ | ⟨rfl, rfl⟩ | ⟨rfl, rfl⟩ | ⟨rfl, rfl⟩ | ⟨rfl, rfl⟩ <;>
    simp +decide [word?, words, Text.ofString, Text.after?]

theorem tokens_of_word? {c : CodePoint} {t rest : Text} {v : Value}
    (hc : isSpace c = false ∧ mark? c = none ∧ c ≠ '"') (hw : word? (c :: t) = some (v, rest)) :
    tokens (c :: t) = .scalar v :: tokens rest := by
  rw [tokens, if_neg (by simp [hc.1]), lexeme, hc.2.1, hw]
  simp only [if_neg hc.2.2]

theorem tokens_word {w : Text} {v : Value} (h : (w, v) ∈ words) (rest : Text) :
    tokens (w ++ rest) = .scalar v :: tokens rest := by
  have hw := word?_of_mem h rest
  simp only [words, List.mem_cons, Prod.mk.injEq, List.not_mem_nil, or_false] at h
  rcases h with ⟨rfl, rfl⟩ | ⟨rfl, rfl⟩ | ⟨rfl, rfl⟩ | ⟨rfl, rfl⟩ | ⟨rfl, rfl⟩ | ⟨rfl, rfl⟩ <;>
    exact tokens_of_word? (by decide) hw

theorem reads_word {w : Text} {v : Value} (h : (w, v) ∈ words) : Reads w (.ok v) :=
  reads_of_token (tokens_word h) (fun _ => rfl) nofun

theorem reads_numeral {t : Text} (hne : t ≠ []) (ht : t.IsNumeric) : ∃ o, Reads t o := by
  obtain ⟨c, t, rfl⟩ := List.exists_cons_of_ne_nil hne
  obtain ⟨o, ho⟩ := Reader.run_numeral ht
  refine ⟨o, fun fs rest hr => ho fs rest hr,
    fun {rest} hr => ⟨_, _, tokens_of_isNumeric hr ht, ?_⟩⟩
  intro hm
  have := isNumeral_numberOf c (t ++ rest)
  rw [hm] at this
  cases this

theorem readsMember_of_reads {layout : Layout} (hl : layout.IsSpaced) (k : Text) {t : Text}
    {o : Except ReadError Value} (h : Reads t o) :
    ReadsMember (quote layout.ascii k ++ layout.keySeparator ++ t) (readText layout.ascii k) o where
  firstKey fs rest hr := by
    rw [List.append_assoc, List.append_assoc, run_of_tokens (tokens_quote ..) rfl,
      run_spacedMark hl.key (m := .colon) ⟨rfl, rfl⟩ rfl]
    exact h.value _ hr
  key before fs rest hr := by
    rw [List.append_assoc, List.append_assoc, run_of_tokens (tokens_quote ..) rfl,
      run_spacedMark hl.key (m := .colon) ⟨rfl, rfl⟩ rfl]
    exact h.value _ hr

-- ---------------------------------------------------------------------------
-- Collections
-- ---------------------------------------------------------------------------

theorem isDelimited_flatMap {sep finish : Text} {c : CodePoint} (hs : IsSpacedMark ',' sep)
    (hf : IsSpacedMark c finish) (hc : c ∈ delimiters) (ts : List Text) (rest : Text) :
    IsDelimited (ts.flatMap (sep ++ ·) ++ (finish ++ rest)) := by
  cases ts with
  | nil => exact hf.isDelimited hc rest
  | cons t ts =>
    rw [List.flatMap_cons, List.append_assoc, List.append_assoc]
    exact hs.isDelimited (by decide) _

/-- The further items of a list. -/
theorem run_items {sep finish : Text} (hs : IsSpacedMark ',' sep) (hf : IsSpacedMark ']' finish)
    {ts : List Text} {os : List (Except ReadError Value)} (h : List.Forall₂ Reads ts os)
    (x : Value) (before : List Value) (fs : List Frame) (rest : Text) :
    run (.complete x (.items before :: fs)) (ts.flatMap (sep ++ ·) ++ (finish ++ rest)) =
      os.mapM id >>= fun xs => run (.complete (.list (before.reverse ++ x :: xs)) fs) rest := by
  induction h generalizing x before with
  | nil =>
    rw [List.flatMap_nil, List.nil_append, run_spacedMark hf (m := .closeList) ⟨rfl, rfl⟩ rfl,
      List.reverse_cons]
    rfl
  | @cons t o ts os ht hts ih =>
    rw [List.flatMap_cons, List.append_assoc, List.append_assoc,
      run_spacedMark hs (m := .comma) ⟨rfl, rfl⟩ rfl,
      ht.value _ (isDelimited_flatMap hs hf (by decide) ts rest), List.mapM_cons]
    cases o with
    | error e => rfl
    | ok v =>
      simp only [id, bind_assoc, pure_bind]
      refine (ih v (x :: before)).trans ?_
      simp only [List.reverse_cons, List.append_assoc, List.singleton_append]
      rfl

/-- A member under its key. -/
def keyed (m : Text × Except ReadError Value) : Except ReadError (Text × Value) :=
  m.2.map (m.1, ·)

/-- The further members of a mapping. -/
theorem run_members {sep finish : Text} (hs : IsSpacedMark ',' sep)
    (hf : IsSpacedMark '\x7d' finish) {ts : List Text} {os : List (Text × Except ReadError Value)}
    (h : List.Forall₂ (fun t m => ReadsMember t m.1 m.2) ts os) (k : Text) (v : Value)
    (before : List Entry) (fs : List Frame) (rest : Text) :
    run (.complete v (.members before k :: fs)) (ts.flatMap (sep ++ ·) ++ (finish ++ rest)) =
      os.mapM keyed >>= fun ms =>
        run (.complete (.map (Entries.putAll before ((k, v) :: ms))) fs) rest := by
  induction h generalizing k v before with
  | nil =>
    rw [List.flatMap_nil, List.nil_append, run_spacedMark hf (m := .closeMap) ⟨rfl, rfl⟩ rfl]
    rfl
  | @cons t m ts os ht hts ih =>
    obtain ⟨l, o⟩ := m
    rw [List.flatMap_cons, List.append_assoc, List.append_assoc,
      run_spacedMark hs (m := .comma) ⟨rfl, rfl⟩ rfl,
      ht.key _ _ (isDelimited_flatMap hs hf (by decide) ts rest), List.mapM_cons]
    cases o with
    | error e => rfl
    | ok w =>
      refine (ih l w (Entries.putText k v before)).trans ?_
      simp only [bind_assoc, pure_bind]
      rfl

/-- The first item of a list is read like any other value. -/
theorem Reads.firstItem {t : Text} {o : Except ReadError Value} (h : Reads t o) (fs : List Frame)
    {rest : Text} (hr : IsDelimited rest) :
    run (.firstItem fs) (t ++ rest) =
      o >>= fun v => run (.complete v (.items [] :: fs)) rest := by
  obtain ⟨m, ms, ht, hm⟩ := h.start hr
  have hs : Reader.step (.firstItem fs) m = Reader.step (.value (.items [] :: fs)) m := by
    cases m with
    | closeList => exact absurd rfl hm
    | _ => rfl
  rw [← h.value _ hr, run, run, ht, List.foldlM_cons, List.foldlM_cons, hs]

section
variable {layout : Layout} {depth : Nat}

theorem reads_list (hl : layout.IsSpaced) {t : Text} {o : Except ReadError Value} {ts : List Text}
    {os : List (Except ReadError Value)} (ht : Reads t o) (hts : List.Forall₂ Reads ts os) :
    Reads (layout.enclose depth "[" "]" (t :: ts)) ((o :: os).mapM id >>= fun xs => .ok (.list xs))
    where
  value fs rest _ := by
    have hs := hl.separator (depth + 1)
    have hf := hl.finish depth ']'
    change run _ (layout.enclose depth ['['] [']'] (t :: ts) ++ rest) = _
    rw [enclose_cons, List.cons_append, List.append_assoc, List.append_assoc, List.append_assoc,
      run_mark (m := .openList) ⟨rfl, rfl⟩ rfl, run_spaces (hl.newline _),
      ht.firstItem _ (isDelimited_flatMap hs hf (by decide) ts rest), List.mapM_cons]
    cases o with
    | error e => rfl
    | ok v =>
      refine (run_items hs hf hts v [] fs rest).trans ?_
      simp only [id, bind_assoc, pure_bind]
      rfl
  start _ := by
    simp only [Layout.enclose, List.append_assoc]
    exact ⟨_, _, tokens_mark (m := .openList) rfl rfl, by simp⟩

theorem reads_map (hl : layout.IsSpaced) {ts : List Text}
    {os : List (Text × Except ReadError Value)}
    (h : List.Forall₂ (fun t m => ReadsMember t m.1 m.2) ts os) :
    Reads (layout.enclose depth "\x7b" "\x7d" ts)
      (os.mapM keyed >>= fun ms => .ok (.map (Entries.putAll [] ms))) where
  value fs rest _ := by
    have hs := hl.separator (depth + 1)
    have hf := hl.finish depth '\x7d'
    change run _ (layout.enclose depth ['\x7b'] ['\x7d'] ts ++ rest) = _
    cases h with
    | nil =>
      simp only [Layout.enclose, Text.joinWith, List.append_nil, List.append_assoc,
        List.singleton_append]
      rw [List.cons_append, run_mark (m := .openMap) ⟨rfl, rfl⟩ rfl, run_spaces (hl.newline _),
        run_spaces (hl.newline _), run_mark (m := .closeMap) ⟨rfl, rfl⟩ rfl]
      rfl
    | @cons t m ts os ht hts =>
      obtain ⟨k, o⟩ := m
      rw [enclose_cons, List.cons_append, List.append_assoc, List.append_assoc, List.append_assoc,
        run_mark (m := .openMap) ⟨rfl, rfl⟩ rfl, run_spaces (hl.newline _),
        ht.firstKey _ (isDelimited_flatMap hs hf (by decide) ts rest), List.mapM_cons]
      cases o with
      | error e => rfl
      | ok v =>
        refine (run_members hs hf hts k v [] fs rest).trans ?_
        simp only [bind_assoc, pure_bind]
        rfl
  start _ := by
    simp only [Layout.enclose, List.append_assoc]
    exact ⟨_, _, tokens_mark (m := .openMap) rfl rfl, by simp⟩

end

-- ---------------------------------------------------------------------------
-- Printed values
-- ---------------------------------------------------------------------------

theorem exists_forall₂ {α β : Type} {R : α → β → Prop} {xs : List α}
    (h : ∀ x ∈ xs, ∃ y, R x y) : ∃ ys, List.Forall₂ R xs ys := by
  induction xs with
  | nil => exact ⟨[], .nil⟩
  | cons x xs ih =>
    obtain ⟨y, hy⟩ := h x (List.mem_cons_self ..)
    obtain ⟨ys, hys⟩ := ih fun x hx => h x (List.mem_cons_of_mem _ hx)
    exact ⟨y :: ys, .cons hy hys⟩

theorem reads_floatText {allowNan : Bool} {x : Binary64} {t : Text}
    (h : floatText allowNan x = .ok t) : ∃ o, Reads t o := by
  unfold floatText at h
  split at h
  · cases h
    exact reads_numeral (Binary64.toText_ne_nil ‹_›) (.toText ‹_›)
  · cases h
  · cases h
    exact ⟨_, reads_word (v := .float .nan) (by simp [words])⟩
  · rename_i negative _
    cases negative with
    | false =>
      cases h
      exact ⟨_, reads_word (v := .float (.infinity false)) (by simp [words])⟩
    | true =>
      cases h
      exact ⟨_, reads_word (v := .float (.infinity true)) (by simp [words])⟩

/-- Collections without parts. -/
theorem reads_empty {c d : CodePoint} {m n : Token} {v : Value} {r : List Frame → Reader}
    (hc : isSpace c = false ∧ mark? c = some m) (hd : isSpace d = false ∧ mark? d = some n)
    (hm : ∀ fs, Reader.step (.value fs) m = .ok (r fs))
    (hn : ∀ fs, (r fs).step n = .ok (.complete v fs)) (hne : m ≠ .closeList) :
    Reads [c, d] (.ok v) where
  value fs rest _ := by
    change run _ (c :: d :: rest) = _
    rw [run_mark hc (hm fs), run_mark hd (hn fs)]
    rfl
  start _ := ⟨_, _, tokens_mark hc.1 hc.2, hne⟩

theorem mem_of_mapM_ok {α β ε : Type} {f : α → Except ε β} {xs : List α} {ys : List β}
    (h : xs.mapM f = .ok ys) : ∀ y ∈ ys, ∃ x ∈ xs, f x = .ok y := by
  induction xs generalizing ys with
  | nil =>
    cases h
    simp
  | cons x xs ih =>
    rw [List.mapM_cons] at h
    obtain ⟨z, hz, h⟩ := Except.bind_ok.1 h
    obtain ⟨zs, hzs, ⟨⟩⟩ := Except.bind_ok.1 h
    rintro y (_ | ⟨_, hy⟩)
    · exact ⟨x, List.mem_cons_self .., hz⟩
    · obtain ⟨w, hw, hf⟩ := ih hzs y hy
      exact ⟨w, List.mem_cons_of_mem _ hw, hf⟩

section
variable {α : Type} {lt : α → α → Bool} {x y : α} {xs : List α}

theorem Halving.mem_firstRun (h : y ∈ firstRun lt xs) : y ∈ xs := by
  unfold firstRun at h
  split at h
  · split at h
    · exact List.mem_of_mem_take (List.mem_reverse.1 h)
    · exact List.mem_of_mem_take h
  · exact h

theorem Halving.mem_insert (h : y ∈ insert lt xs x) : y = x ∨ y ∈ xs := by
  simp only [insert, List.mem_append, List.mem_cons] at h
  obtain h | rfl | h := h
  · exact .inr (List.mem_of_mem_take h)
  · exact .inl rfl
  · exact .inr (List.mem_of_mem_drop h)

theorem Halving.mem_foldl_insert {run : List α} (h : y ∈ xs.foldl (insert lt) run) :
    y ∈ run ∨ y ∈ xs := by
  induction xs generalizing run with
  | nil => exact .inl h
  | cons x xs ih =>
    obtain h | h := ih h
    · obtain rfl | h := mem_insert h
      · exact .inr (List.mem_cons_self ..)
      · exact .inl h
    · exact .inr (List.mem_cons_of_mem _ h)

theorem Halving.mem_sort (h : y ∈ sort lt xs) : y ∈ xs := by
  obtain h | h := mem_foldl_insert h
  · exact mem_firstRun h
  · exact List.mem_of_mem_drop h

end

theorem mem_of_sortMembers? {α : Type} {ms ns : List (Value × α)} (h : sortMembers? ms = some ns)
    {m : Value × α} (hm : m ∈ ns) : m ∈ ms := by
  unfold sortMembers? at h
  split at h
  · cases h
  · split at h
    · cases h
      exact Halving.mem_sort hm
    · cases h
      exact List.mem_mergeSort.1 hm

/-- Whatever the order of the members is, none of them is new. -/
theorem mem_of_arrange {layout : Layout} {ms ns : List Member} (h : layout.arrange ms = .ok ns)
    {m : Member} (hm : m ∈ ns) : m ∈ ms := by
  have hkept {sorted : List Member}
      (h : (if layout.skipKeys then sorted.filter (hasKeyText ·.1) else sorted) = ns) :
      m ∈ sorted := by
    subst h
    split at hm
    · exact List.mem_of_mem_filter hm
    · exact hm
  cases hs : layout.sortKeys with
  | false =>
    simp only [Layout.arrange, hs, Bool.false_eq_true, if_false] at h
    exact hkept (Except.ok.inj h)
  | true =>
    simp only [Layout.arrange, hs, if_true] at h
    cases ho : sortMembers? ms with
    | none =>
      rw [ho] at h
      cases h
    | some sorted =>
      rw [ho] at h
      exact mem_of_sortMembers? ho (hkept (Except.ok.inj h))

theorem print_map_ok {layout : Layout} {depth : Nat} {e : Entry} {es : List Entry} {t : Text} :
    print layout depth (.map (e :: es)) = .ok t ↔
      ∃ ms ts, layout.arrange (printMembers layout (depth + 1) (e :: es)) = .ok ms ∧
        ms.mapM Prod.snd = .ok ts ∧ t = layout.enclose depth "\x7b" "\x7d" ts := by
  simp only [print, Except.bind_ok, pure, Except.pure, Except.ok.injEq, eq_comm (a := t)]
  constructor
  · rintro ⟨ms, hms, ts, hts, rfl⟩
    exact ⟨ms, ts, hms, hts, rfl⟩
  · rintro ⟨ms, ts, hms, hts, rfl⟩
    exact ⟨ms, hms, ts, hts, rfl⟩

mutual
theorem reads_print {layout : Layout} (hl : layout.IsSpaced) : (depth : Nat) → (v : Value) →
    ∀ {t : Text}, print layout depth v = .ok t → ∃ o, Reads t o
  | _, .null, _, h => by
    cases h
    exact ⟨_, reads_word (v := .null) (by simp [words])⟩
  | _, .bool b, _, h => by
    cases h
    cases b with
    | false => exact ⟨_, reads_word (v := .bool false) (by simp [words])⟩
    | true => exact ⟨_, reads_word (v := .bool true) (by simp [words])⟩
  | _, .int i, _, h => by
    obtain rfl := intText_ok h
    exact reads_numeral (Text.ofInt_ne_nil i) (.ofInt i)
  | _, .float x, _, h => reads_floatText h
  | _, .text t, _, h => by
    cases h
    exact ⟨_, reads_quote layout.ascii t⟩
  | _, .list [], _, h => by
    cases h
    exact ⟨_, reads_empty (c := '[') (d := ']') (r := .firstItem) ⟨rfl, rfl⟩ ⟨rfl, rfl⟩
      (fun _ => rfl) (fun _ => rfl) nofun⟩
  | depth, .list (x :: xs), _, h => by
    obtain ⟨ts, hts, ⟨⟩⟩ := Except.bind_ok.1 h
    obtain ⟨t, ht, hts⟩ := Except.bind_ok.1 hts
    obtain ⟨ts, hxs, ⟨⟩⟩ := Except.bind_ok.1 hts
    obtain ⟨o, ho⟩ := reads_print hl (depth + 1) x ht
    obtain ⟨os, hos⟩ := exists_forall₂ (reads_printItems hl (depth + 1) xs hxs)
    exact ⟨_, reads_list hl ho hos⟩
  | depth, .pair v w, _, h => by
    obtain ⟨t, ht, h⟩ := Except.bind_ok.1 h
    obtain ⟨u, hu, ⟨⟩⟩ := Except.bind_ok.1 h
    obtain ⟨o, ho⟩ := reads_print hl (depth + 1) v ht
    obtain ⟨o', ho'⟩ := reads_print hl (depth + 1) w hu
    exact ⟨_, reads_list hl ho (.cons ho' .nil)⟩
  | _, .map [], _, h => by
    cases h
    exact ⟨_, reads_empty (c := '\x7b') (d := '\x7d') (r := .firstKey) ⟨rfl, rfl⟩ ⟨rfl, rfl⟩
      (fun _ => rfl) (fun _ => rfl) nofun⟩
  | depth, .map (e :: es), _, h => by
    obtain ⟨ms, ts, hms, hts, rfl⟩ := print_map_ok.1 h
    have hr : ∀ t ∈ ts, ∃ m : Text × Except ReadError Value, ReadsMember t m.1 m.2 := by
      intro t ht
      obtain ⟨m, hm, hmt⟩ := mem_of_mapM_ok hts t ht
      have hm := mem_of_arrange hms hm
      obtain ⟨k, o, ho⟩ := reads_printMembers hl (depth + 1) (e :: es) m hm t hmt
      exact ⟨(k, o), ho⟩
    obtain ⟨os, hos⟩ := exists_forall₂ hr
    exact ⟨_, reads_map hl hos⟩
  | _, .octets _, _, h | _, .set _, _, h | _, .date _, _, h | _, .dateTime _, _, h => nomatch h

theorem reads_printItems {layout : Layout} (hl : layout.IsSpaced) : (depth : Nat) →
    (xs : List Value) → ∀ {ts : List Text}, printItems layout depth xs = .ok ts →
      ∀ t ∈ ts, ∃ o, Reads t o
  | _, [], _, h => by
    cases h
    simp
  | depth, x :: xs, _, h => by
    obtain ⟨t, ht, h⟩ := Except.bind_ok.1 h
    obtain ⟨ts, hts, ⟨⟩⟩ := Except.bind_ok.1 h
    rintro u (_ | ⟨_, hu⟩)
    · exact reads_print hl depth x ht
    · exact reads_printItems hl depth xs hts u hu

theorem reads_printMembers {layout : Layout} (hl : layout.IsSpaced) : (depth : Nat) →
    (es : List Entry) → ∀ m ∈ printMembers layout depth es, ∀ t, m.2 = .ok t →
      ∃ k o, ReadsMember t k o
  | _, [], _, hm => nomatch hm
  | depth, (k, v) :: es, m, hm => by
    intro t ht
    rcases List.mem_cons.1 hm with rfl | hm
    · obtain ⟨key, hk, h⟩ := Except.bind_ok.1 ht
      obtain ⟨u, hu, ⟨⟩⟩ := Except.bind_ok.1 h
      obtain ⟨o, ho⟩ := reads_print hl depth v hu
      exact ⟨_, o, readsMember_of_reads hl key ho⟩
    · exact reads_printMembers hl depth es m hm t ht
end

end Json

end ConnectionProfile
