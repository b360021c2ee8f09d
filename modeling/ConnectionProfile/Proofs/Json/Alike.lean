import ConnectionProfile.Proofs.Json.Printed
import ConnectionProfile.Proofs.Value.Members

/-!
# Values that are printed alike

Two values are printed alike when both cannot be printed for the same reason, or when both can and
what is read of the two texts is the same after a change. A mapping is printed like the one in which
the values under some keys were exchanged for values that are printed alike.
-/

namespace ConnectionProfile

namespace Entries

variable {p : Value → Bool} {g : Value → Value}

theorem mapUnder_putAll (es : List Entry) (members : List (Text × Value)) :
    mapUnder p g (putAll es members) =
      putAll (mapUnder p g es) (members.map fun m => (m.1, if p (.text m.1) then g m.2 else m.2)) := by
  induction members generalizing es with
  | nil => rfl
  | cons m members ih =>
    obtain ⟨k, v⟩ := m
    exact (ih (putText k v es)).trans (by rw [mapUnder_putText]; rfl)

end Entries

namespace Json

/-- Both values cannot be printed for the same reason, or both can. If the layout puts blanks only
between the tokens, the texts are then read alike, apart from a change by `g`. -/
inductive PrintsAlike (layout : Layout) (depth : Nat) (g : Value → Value) (v w : Value) : Prop
  | refused {e : PrintError} (hv : print layout depth v = .error e)
      (hw : print layout depth w = .error e)
  | printed {t u : Text} (hv : print layout depth v = .ok t) (hw : print layout depth w = .ok u)
      (hr : layout.IsSpaced → ∃ o o', Reads t o ∧ Reads u o' ∧ o.map g = o'.map g)

section
variable {layout : Layout} {depth : Nat} {p : Value → Bool} {g h : Value → Value}

theorem printsAlike_refl (layout : Layout) (depth : Nat) (g : Value → Value) (v : Value) :
    PrintsAlike layout depth g v v := by
  cases hv : print layout depth v with
  | error e => exact .refused hv hv
  | ok t =>
    refine .printed hv hv fun hl => ?_
    obtain ⟨o, ho⟩ := reads_print hl depth v hv
    exact ⟨o, o, ho, ho, rfl⟩

-- ---------------------------------------------------------------------------
-- Members
-- ---------------------------------------------------------------------------

/-- A mapping with texts for keys is printed member by member. -/
theorem print_map_of_texts {es : List Entry} (hne : es ≠ [])
    (hk : ∀ e ∈ es, ∃ k : Text, e.1 = .text k) :
    print layout depth (.map es) =
      ((Entries.arrange layout.sortKeys es).mapM (printMember layout (depth + 1))).map
        (layout.enclose depth "\x7b" "\x7d") := by
  obtain ⟨e, es, rfl⟩ := List.exists_cons_of_ne_nil hne
  have ha : layout.arrange (printMembers layout (depth + 1) (e :: es)) =
      .ok ((Entries.arrange layout.sortKeys (e :: es)).map fun e =>
        (e.1, printMember layout (depth + 1) e)) := by
    rw [printMembers_eq_map, arrange_of_texts, Entries.arrange_map]
    simpa only [List.forall_mem_map] using hk
  have hm (xs : List Entry) : (xs.map fun e => (e.1, printMember layout (depth + 1) e)).mapM
      Prod.snd = xs.mapM (printMember layout (depth + 1)) := by
    induction xs with
    | nil => rfl
    | cons x xs ih => rw [List.map_cons, List.mapM_cons, List.mapM_cons, ih]
  simp only [print, ha, ← hm]
  rfl

/-- A member that is read, with its value changed if it is one of those under the keys in `p`. -/
def changed (p : Value → Bool) (g : Value → Value) (m : Text × Except ReadError Value) :
    Text × Except ReadError Value :=
  (m.1, m.2.map fun v => if p (.text m.1) then g v else v)

theorem mapM_keyed_changed (os : List (Text × Except ReadError Value)) :
    (os.map (changed p g)).mapM keyed = (os.mapM keyed).map fun members =>
      members.map fun m => (m.1, if p (.text m.1) then g m.2 else m.2) := by
  induction os with
  | nil => rfl
  | cons m os ih =>
    obtain ⟨k, o⟩ := m
    rw [List.map_cons, List.mapM_cons, List.mapM_cons, ih]
    cases o with
    | error e => rfl
    | ok v => cases os.mapM keyed <;> rfl

/-- Mappings whose members are read alike are read alike. -/
theorem map_mapUnder_congr {os os' : List (Text × Except ReadError Value)}
    (ho : os.map (changed p g) = os'.map (changed p g)) :
    (os.mapM keyed >>= fun ms => .ok (.map (Entries.putAll [] ms))).map (Value.mapUnder p g) =
      (os'.mapM keyed >>= fun ms => .ok (.map (Entries.putAll [] ms))).map
        (Value.mapUnder p g) := by
  have hc (os : List (Text × Except ReadError Value)) :
      (os.mapM keyed >>= fun ms => .ok (.map (Entries.putAll [] ms))).map (Value.mapUnder p g) =
        ((os.map (changed p g)).mapM keyed).map fun ms => .map (Entries.putAll [] ms) := by
    rw [mapM_keyed_changed]
    cases os.mapM keyed with
    | error e => rfl
    | ok ms => exact congrArg (fun es => Except.ok (Value.map es)) (Entries.mapUnder_putAll [] ms)
  rw [hc, hc, ho]

/-- As `PrintsAlike`, for the members of two mappings. -/
inductive MembersAlike (layout : Layout) (depth : Nat) (p : Value → Bool) (g : Value → Value)
    (es fs : List Entry) : Prop
  | refused {e : PrintError} (hes : es.mapM (printMember layout depth) = .error e)
      (hfs : fs.mapM (printMember layout depth) = .error e)
  | printed {ts us : List Text} (hes : es.mapM (printMember layout depth) = .ok ts)
      (hfs : fs.mapM (printMember layout depth) = .ok us)
      (hr : layout.IsSpaced → ∃ os os', List.Forall₂ (fun t m => ReadsMember t m.1 m.2) ts os ∧
        List.Forall₂ (fun t m => ReadsMember t m.1 m.2) us os' ∧
        os.map (changed p g) = os'.map (changed p g))

theorem printMember_text (layout : Layout) (depth : Nat) (k : Text) (v : Value) :
    printMember layout depth (.text k, v) = (print layout depth v).map fun u =>
      quote layout.ascii k ++ layout.keySeparator ++ u := rfl

theorem mapM_printMember_cons {k : Text} {v : Value} {es : List Entry} {t : Text} {ts : List Text}
    (hv : print layout depth v = .ok t) (hes : es.mapM (printMember layout depth) = .ok ts) :
    ((.text k, v) :: es).mapM (printMember layout depth) =
      .ok ((quote layout.ascii k ++ layout.keySeparator ++ t) :: ts) := by
  rw [List.mapM_cons, printMember_text, hv, hes]
  rfl

theorem MembersAlike.cons {k : Text} (hk : k.isKeyword = true) {v w : Value} {es fs : List Entry}
    (hv : PrintsAlike layout depth (fun v => if p (.text k) then g v else v) v w)
    (h : MembersAlike layout depth p g es fs) :
    MembersAlike layout depth p g ((.text k, v) :: es) ((.text k, w) :: fs) := by
  cases hv with
  | @refused e hv hw =>
    refine .refused (e := e) ?_ ?_
    · rw [List.mapM_cons, printMember_text, hv]
      rfl
    · rw [List.mapM_cons, printMember_text, hw]
      rfl
  | printed hv hw hr =>
    cases h with
    | @refused e hes hfs =>
      refine .refused (e := e) ?_ ?_
      · rw [List.mapM_cons, printMember_text, hv, hes]
        rfl
      · rw [List.mapM_cons, printMember_text, hw, hfs]
        rfl
    | printed hes hfs hrs =>
      refine .printed (mapM_printMember_cons hv hes) (mapM_printMember_cons hw hfs) fun hl => ?_
      obtain ⟨o, o', ho, ho', hg⟩ := hr hl
      obtain ⟨os, os', hos, hos', hgs⟩ := hrs hl
      have hread {t : Text} {o : Except ReadError Value} (ho : Reads t o) :
          ReadsMember (quote layout.ascii k ++ layout.keySeparator ++ t) k o := by
        have hm := readsMember_of_reads hl k ho
        rwa [readText_of_isKeyword _ hk] at hm
      refine ⟨(k, o) :: os, (k, o') :: os', .cons (hread ho) hos, .cons (hread ho') hos', ?_⟩
      rw [List.map_cons, List.map_cons, hgs]
      exact congrArg (fun o => (k, o) :: os'.map (changed p g)) hg

theorem membersAlike_mapUnder {es : List Entry}
    (hk : ∀ e ∈ es, ∃ k : Text, e.1 = .text k ∧ k.isKeyword = true)
    (he : ∀ e ∈ es, p e.1 = true → PrintsAlike layout depth g e.2 (h e.2)) :
    MembersAlike layout depth p g es (Entries.mapUnder p h es) := by
  induction es with
  | nil =>
    have hn : [].mapM (printMember layout depth) = .ok [] := rfl
    exact .printed hn hn fun _ => ⟨[], [], .nil, .nil, rfl⟩
  | cons e es ih =>
    obtain ⟨l, v⟩ := e
    obtain ⟨⟨k, rfl, hkey⟩, hks⟩ := List.forall_mem_cons.1 hk
    obtain ⟨hv, hes⟩ := List.forall_mem_cons.1 he
    refine MembersAlike.cons hkey ?_ (ih hks hes)
    cases hp : p (.text k) with
    | true => exact hv hp
    | false => exact printsAlike_refl layout depth _ v

-- ---------------------------------------------------------------------------
-- Mappings
-- ---------------------------------------------------------------------------

/-- A mapping is printed like the one with other values under some keys, when these are printed
alike. -/
theorem printsAlike_mapUnder {es : List Entry} (hne : es ≠ [])
    (hk : ∀ e ∈ es, ∃ k : Text, e.1 = .text k ∧ k.isKeyword = true)
    (he : ∀ e ∈ es, p e.1 = true → PrintsAlike layout (depth + 1) g e.2 (h e.2)) :
    PrintsAlike layout depth (Value.mapUnder p g) (.map es) (.map (Entries.mapUnder p h es)) := by
  have hprint {es : List Entry} (hne : es ≠ [])
      (hk : ∀ e ∈ es, ∃ k : Text, e.1 = .text k ∧ k.isKeyword = true) :=
    @print_map_of_texts layout depth es hne fun e he => (hk e he).imp fun _ => And.left
  have hk' : ∀ e ∈ Entries.mapUnder p h es, ∃ k : Text, e.1 = .text k ∧ k.isKeyword = true := by
    simpa only [Entries.mapUnder, List.forall_mem_map] using hk
  have hne' : Entries.mapUnder p h es ≠ [] := by
    simpa only [Entries.mapUnder, ne_eq, List.map_eq_nil_iff] using hne
  have hv := hprint hne hk
  have hw := hprint hne' hk'
  rw [Entries.arrange_mapUnder] at hw
  have hm : MembersAlike layout (depth + 1) p g (Entries.arrange layout.sortKeys es)
      (Entries.mapUnder p h (Entries.arrange layout.sortKeys es)) :=
    membersAlike_mapUnder (fun e he => hk e (Entries.mem_arrange.1 he))
      fun e hm => he e (Entries.mem_arrange.1 hm)
  cases hm with
  | refused hes hfs =>
    rw [hes] at hv
    rw [hfs] at hw
    exact .refused hv hw
  | printed hes hfs hr =>
    rw [hes] at hv
    rw [hfs] at hw
    refine .printed hv hw fun hl => ?_
    obtain ⟨os, os', hos, hos', hg⟩ := hr hl
    exact ⟨_, _, reads_map hl hos, reads_map hl hos', map_mapUnder_congr hg⟩

end

end Json

end ConnectionProfile
