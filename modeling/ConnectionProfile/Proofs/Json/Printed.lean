import ConnectionProfile.Proofs.Json.Parts

/-!
# Printed mappings

What is read under one key of a printed mapping depends on the value under that key only. The other
values may be such that nothing at all can be read, but they cannot change what is read here.
-/

namespace ConnectionProfile.Json

theorem read_of_reads {t : Text} {o : Except ReadError Value} (h : Reads t o) : read t = o := by
  have hr : read t = Reader.run (.value []) (t ++ []) >>= Reader.result := by
    rw [List.append_nil]
    rfl
  rw [hr, h.value [] isDelimited_nil]
  cases o with
  | error e => rfl
  | ok v =>
    have hn : tokens [] = [] := by rw [tokens]
    simp only [Reader.run, hn]
    rfl

theorem reads_write {nulls : Bool} {layout : Layout} (hl : layout.IsSpaced) {v : Value}
    (hv : v.IsDocument nulls) (depth : Nat) :
    Reads (write layout depth v) (.ok (v.mapTexts (readText layout.ascii))) where
  value fs rest _ := run_write hl v hv depth fs rest
  start {rest} _ := tokens_write layout depth v rest

/-- The printed member of an entry. -/
def printMember (layout : Layout) (depth : Nat) (e : Entry) : Except PrintError Text := do
  let key ← keyText layout e.1
  return quote layout.ascii key ++ layout.keySeparator ++ (← print layout depth e.2)

theorem printMember_ok {layout : Layout} {depth : Nat} {k t : Text} {v : Value} :
    printMember layout depth (.text k, v) = .ok t ↔ ∃ u, print layout depth v = .ok u ∧
      t = quote layout.ascii k ++ layout.keySeparator ++ u := by
  have hp : printMember layout depth (.text k, v) = (print layout depth v >>= fun u =>
      .ok (quote layout.ascii k ++ layout.keySeparator ++ u)) := rfl
  simp only [hp, Except.bind_ok, Except.ok.injEq, eq_comm (a := t)]

theorem printMembers_eq_map (layout : Layout) (depth : Nat) (es : List Entry) :
    printMembers layout depth es = es.map fun e => (e.1, printMember layout depth e) := by
  induction es with
  | nil => rfl
  | cons e es ih =>
    rw [printMembers, ih]
    rfl

section
variable {os : List (Text × Except ReadError Value)} {members : List (Text × Value)}

theorem keys_of_mapM_keyed (h : os.mapM keyed = .ok members) :
    members.map Prod.fst = os.map Prod.fst := by
  induction os generalizing members with
  | nil =>
    cases h
    rfl
  | cons m os ih =>
    rw [List.mapM_cons] at h
    obtain ⟨_, hm, h⟩ := Except.bind_ok.1 h
    obtain ⟨_, hms, ⟨⟩⟩ := Except.bind_ok.1 h
    obtain ⟨k, o⟩ := m
    cases o with
    | error e => cases hm
    | ok v =>
      cases hm
      rw [List.map_cons, List.map_cons, ih hms]

theorem ok_of_mapM_keyed {key : Text} {v : Value} (h : os.mapM keyed = .ok members)
    (hv : ∀ o ∈ os, o.1 = key → o.2 = .ok v) : ∀ m ∈ members, m.1 = key → m.2 = v := by
  intro m hm hk
  obtain ⟨⟨k, o⟩, ho, hkeyed⟩ := mem_of_mapM_ok h m hm
  cases o with
  | error e => cases hkeyed
  | ok w =>
    cases hkeyed
    exact Except.ok.inj (hv _ ho hk)

end

/-- The members of a mapping as they are read, one for each printed text. -/
theorem exists_readsMembers {layout : Layout} (hl : layout.IsSpaced) (depth : Nat) (key : Text)
    (v : Value) {ms : List Member} {ts : List Text} (hts : ms.mapM Prod.snd = .ok ts)
    (hms : ∀ m ∈ ms, ∃ (k : Text) (w : Value),
      m = (.text k, printMember layout depth (.text k, w)) ∧ k.isKeyword = true ∧
        (k = key → ∀ t, print layout depth w = .ok t → Reads t (.ok v))) :
    ∃ os : List (Text × Except ReadError Value),
      List.Forall₂ (fun t m => ReadsMember t m.1 m.2) ts os ∧
        (∀ o ∈ os, o.1 = key → o.2 = .ok v) ∧
        (os.map Prod.fst).map Value.text = ms.map Prod.fst := by
  induction ms generalizing ts with
  | nil =>
    cases hts
    exact ⟨[], .nil, by simp, rfl⟩
  | cons m ms ih =>
    rw [List.mapM_cons] at hts
    obtain ⟨t, ht, h⟩ := Except.bind_ok.1 hts
    obtain ⟨ts, hrest, ⟨⟩⟩ := Except.bind_ok.1 h
    obtain ⟨os, hos, hv, hkeys⟩ := ih hrest fun m hm => hms m (List.mem_cons_of_mem _ hm)
    obtain ⟨k, w, rfl, hk, hw⟩ := hms m (List.mem_cons_self ..)
    obtain ⟨u, hu, rfl⟩ := printMember_ok.1 ht
    obtain ⟨o, ho, hkv⟩ : ∃ o, Reads u o ∧ (k = key → o = .ok v) := by
      by_cases h : k = key
      · exact ⟨.ok v, hw h u hu, fun _ => rfl⟩
      · obtain ⟨o, ho⟩ := reads_print hl depth w hu
        exact ⟨o, ho, fun hk => absurd hk h⟩
    have hm := readsMember_of_reads hl k ho
    rw [readText_of_isKeyword _ hk] at hm
    refine ⟨(k, o) :: os, .cons hm hos, ?_, by simp only [List.map_cons, hkeys]⟩
    rintro _ (_ | ⟨_, hmem⟩)
    · exact hkv
    · exact hv _ hmem

/-- What is read under a key of a printed mapping is what is read of the value there, whatever the
other values are. -/
theorem read_print_map {layout : Layout} (hl : layout.IsSpaced) {depth : Nat} {es : List Entry}
    {key : Text} {v w : Value} {t : Text}
    (hes : ∀ e ∈ es, ∃ k : Text, e.1 = .text k ∧ k.isKeyword = true ∧ (k = key →
      ∀ t, print layout (depth + 1) e.2 = .ok t → Reads t (.ok v)))
    (hk : .text key ∈ Entries.keys es) (ht : print layout depth (.map es) = .ok t)
    (hw : read t = .ok w) : ∃ fs, w = .map fs ∧ Entries.get? key fs = some v := by
  obtain ⟨e, es, rfl⟩ : ∃ e es', es = e :: es' := List.exists_cons_of_ne_nil (by
    rintro rfl
    cases hk)
  obtain ⟨ms, ts, hms, hts, rfl⟩ := print_map_ok.1 ht
  rw [printMembers_eq_map] at hms
  obtain ⟨os, hos, hv, hkeys⟩ := exists_readsMembers hl (depth + 1) key v hts fun m hm => by
      obtain ⟨⟨l, u⟩, he, rfl⟩ := List.mem_map.1 (mem_of_arrange hms hm)
      obtain ⟨k, rfl, hkey, hr⟩ := hes _ he
      exact ⟨k, u, rfl, hkey, hr⟩
  rw [read_of_reads (reads_map hl hos)] at hw
  obtain ⟨members, hmembers, ⟨⟩⟩ := Except.bind_ok.1 hw
  -- the key is still there: members with texts for keys are only put in order
  have hmem : .text key ∈ ms.map Prod.fst := by
    rw [arrange_of_texts layout fun m hm => by
      obtain ⟨e, he, rfl⟩ := List.mem_map.1 hm
      obtain ⟨k, hk, -⟩ := hes e he
      exact ⟨k, hk⟩] at hms
    rw [← Except.ok.inj hms, ((Entries.arrange_perm _ _).map _).mem_iff, List.map_map]
    exact hk
  rw [← hkeys, ← keys_of_mapM_keyed hmembers, List.mem_map_of_injective fun _ _ => Value.text.inj]
    at hmem
  obtain ⟨m, hm, hkey⟩ := List.mem_map.1 hmem
  exact ⟨_, rfl, Entries.get?_putAll (ok_of_mapM_keyed hmembers hv) (.inr ⟨m, hm, hkey⟩)⟩

end ConnectionProfile.Json
