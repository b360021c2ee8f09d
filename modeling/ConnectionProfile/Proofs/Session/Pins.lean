import ConnectionProfile.Proofs.Profile.Pins
import ConnectionProfile.Proofs.Session.Sharing

/-!
# Separate pins

Every profile has a list of pins of its own. `Lists` is what is left of a session when one looks at
the pins only: it has no lists that could be shared, and `Lists.Along` says how a history changes
it. Only a profile that is read from its own text can get other pins than the old ones, and these are
the pins in the text. After every run the profiles show the pins that it says.
-/

namespace ConnectionProfile

/-- Whether a step has nothing to do with the lists of profiles. -/
def Step.sparesLists : Step → Bool
  | .setServer _ | .setIdentity _ | .setCredentials _ | .setCredentialField ..
  | .setCredentialTable _ | .appendToSource _ => true
  | step => step.reads

namespace Session

-- ---------------------------------------------------------------------------
-- Pins without lists
-- ---------------------------------------------------------------------------

/-- The pins of every profile, and the profile whose list is held. -/
structure Lists where
  pins : List (List Pin)
  held : Option Nat

namespace Lists

def edit (w : Lists) (i : Nat) (pins : List Pin) : Lists := { w with pins := w.pins.set i pins }

/-- The held list is no longer the list of the profile. -/
def release (w : Lists) (i : Nat) : Lists := if w.held = some i then { w with held := none } else w

/-- What a step on profile `i` of a session makes of the pins. -/
inductive Moves (s : Session) (w : Lists) (i : Nat) : Step → Lists → Prop
  | spared {step : Step} (h : step.sparesLists = true) : Moves s w i step w
  | edited {step : Step} {pins rest : List Pin} (hi : w.pins[i]? = some pins)
      (hp : editedPins? pins step = some rest) : Moves s w i step (w.edit i rest)
  | held : Moves s w i .holdPins { w with held := some i }
  | appended {fields : List Entry} {p : Pin} {j : Nat} {pins : List Pin}
      (hp : checkPin fields = .ok p) (hl : w.held = some j) (hj : w.pins[j]? = some pins) :
      Moves s w i (.appendToHeld fields) (w.edit j (pins ++ [p]))
  | released {fields : List Entry} (hl : w.held = none) : Moves s w i (.appendToHeld fields) w
  | forked {pins : List Pin} (hi : w.pins[i]? = some pins) :
      Moves s w i .fork { w with pins := w.pins ++ [pins] }
  | reloaded {pins : List Pin} (hi : w.pins[i]? = some pins) :
      Moves s w i .reload ((w.release i).edit i pins)
  /-- The pins are those that the text of the profile decodes to. In a spaced layout they are the old
  ones, but for surrogates that are joined. -/
  | reloadedText {options : List Entry} {p q : Profile} {t : Text} (hi : w.pins[i]? = some p.pins)
      (hp : s.profile? i = some p) (ht : encodeText p options = .ok t)
      (hq : (Profile.ofText (.text t)).result = .ok q)
      (hr : ∀ layout, Json.Layout.ofOptions options = .ok layout → layout.IsSpaced →
        q.pins = p.pins.map (Pin.mapTexts (Json.readText layout.ascii))) :
      Moves s w i (.reloadText options) ((w.release i).edit i q.pins)

/-- What a history makes of a session that starts with one profile with some pins. -/
inductive Along (s₀ : Session) (pins : List Pin) : List (Nat × Step) → Lists → Prop
  | start : Along s₀ pins [] ⟨[pins], none⟩
  | step {past : List (Nat × Step)} {w w' : Lists} {i : Nat} {step : Step}
      (hw : Along s₀ pins past w) (hm : Moves (s₀.run past.reverse) w i step w') :
      Along s₀ pins ((i, step) :: past) w'

end Lists

-- ---------------------------------------------------------------------------
-- Lists of a session
-- ---------------------------------------------------------------------------

/-- The numbers of the lists that the profiles have. -/
def lists (s : Session) : List Nat := s.holders.map Holder.pins

/-- Somebody has the list: the caller, a profile, or who held it last. -/
def Knows (s : Session) (list : Nat) : Prop :=
  list = s.source ∨ list ∈ s.lists ∨ s.held = some list

/-- The session has the pins, and no list is there twice. -/
structure Represents (w : Lists) (s : Session) : Prop where
  pins : ∀ j : Nat, w.pins[j]? = (s.lists[j]?).map s.pinsAt
  apart : ∀ (i j list : Nat), s.lists[i]? = some list → s.lists[j]? = some list → i = j
  source : s.source ∉ s.lists ∧ s.held ≠ some s.source
  stored : ∀ list, s.Knows list → list < s.pinLists.length
  held : ∀ j : Nat, w.held = some j ↔ ∃ list, s.held = some list ∧ s.lists[j]? = some list

section
variable {w : Lists} {s t : Session} {i list : Nat} {h : Holder}

theorem pinsAt_setPins (hl : list < s.pinLists.length) (pins : List Pin) (m : Nat) :
    (s.setPins list pins).pinsAt m = if m = list then pins else s.pinsAt m := by
  unfold pinsAt setPins
  by_cases hm : m = list
  · subst hm
    simp only [List.getElem?_set_self hl, Option.getD_some, if_true]
  · simp only [List.getElem?_set_ne (Ne.symm hm), hm, if_false]

theorem lists_of_holder (hi : s.holders[i]? = some h) : s.lists[i]? = some h.pins := by
  rw [lists, List.getElem?_map, hi]
  rfl

theorem knows_of_lists (hi : s.lists[i]? = some list) : s.Knows list :=
  .inr (.inl (List.mem_of_getElem? hi))

theorem lists_setHolder (hi : s.holders[i]? = some h) (g : Holder) (j : Nat) :
    (s.setHolder i g).lists[j]? = if j = i then some g.pins else s.lists[j]? := by
  obtain ⟨hlt, -⟩ := List.getElem?_eq_some_iff.1 hi
  unfold lists setHolder
  by_cases hj : j = i
  · subst hj
    simp only [List.getElem?_map, List.getElem?_set_self hlt, Option.map_some, if_true]
  · simp only [List.getElem?_map, List.getElem?_set_ne (Ne.symm hj), hj, if_false]

/-- A holder that keeps its list can change in every other way. -/
theorem lists_setHolder_of_eq (hi : s.holders[i]? = some h) {g : Holder} (hg : g.pins = h.pins) :
    (s.setHolder i g).lists = s.lists := by
  apply List.ext_getElem?
  intro j
  rw [lists_setHolder hi]
  split
  · subst j
    rw [hg, lists_of_holder hi]
  · rfl

/-- A session that has the same lists has the same pins. -/
theorem Represents.congr (hs : Represents w s) (hl : t.lists = s.lists)
    (hp : t.pinLists = s.pinLists) (hc : t.source = s.source) (hh : t.held = s.held) :
    Represents w t := by
  have hat : t.pinsAt = s.pinsAt := by
    funext m
    rw [pinsAt, pinsAt, hp]
  refine ⟨?_, ?_, ?_, ?_, ?_⟩
  · rw [hl, hat]
    exact hs.pins
  · rw [hl]
    exact hs.apart
  · rw [hc, hl, hh]
    exact hs.source
  · simp only [Knows, hc, hl, hh, hp]
    exact hs.stored
  · rw [hh, hl]
    exact hs.held

theorem Represents.setPins (hs : Represents w s) (hi : s.lists[i]? = some list) (pins : List Pin) :
    Represents (w.edit i pins) (s.setPins list pins) where
  pins j := by
    have hw := hs.pins i
    rw [hi, Option.map_some] at hw
    obtain ⟨hlt, -⟩ := List.getElem?_eq_some_iff.1 hw
    change (w.pins.set i pins)[j]? = (s.lists[j]?).map _
    by_cases hj : j = i
    · subst hj
      rw [List.getElem?_set_self hlt, hi, Option.map_some,
        pinsAt_setPins (hs.stored _ (knows_of_lists hi)), if_pos rfl]
    · rw [List.getElem?_set_ne (Ne.symm hj), hs.pins]
      refine Option.map_congr fun m hm => ?_
      rw [pinsAt_setPins (hs.stored _ (knows_of_lists hi)), if_neg]
      rintro rfl
      exact hj (hs.apart j i m hm hi)
  apart := hs.apart
  source := hs.source
  stored m hk := by
    rw [Session.setPins, List.length_set]
    exact hs.stored m hk
  held := hs.held

theorem Represents.setPins_other (hs : Represents w s) (hk : s.Knows list) (hl : list ∉ s.lists)
    (pins : List Pin) : Represents w (s.setPins list pins) where
  pins j := by
    rw [hs.pins]
    refine Option.map_congr fun m hm => ?_
    rw [pinsAt_setPins (hs.stored _ hk), if_neg]
    rintro rfl
    exact hl (List.mem_of_getElem? hm)
  apart := hs.apart
  source := hs.source
  stored m hk := by
    rw [Session.setPins, List.length_set]
    exact hs.stored m hk
  held := hs.held

theorem Represents.hold (hs : Represents w s) (hi : s.lists[i]? = some list) :
    Represents { w with held := some i } { s with held := some list } where
  pins := hs.pins
  apart := hs.apart
  source := by
    refine ⟨hs.source.1, fun h => hs.source.1 ?_⟩
    rw [← Option.some.inj h]
    exact List.mem_of_getElem? hi
  stored m hk := by
    obtain hk | hk | hk := hk
    · exact hs.stored m (.inl hk)
    · exact hs.stored m (.inr (.inl hk))
    · obtain rfl := Option.some.inj hk
      exact hs.stored _ (knows_of_lists hi)
  held j := by
    constructor
    · rintro ⟨⟩
      exact ⟨list, rfl, hi⟩
    · rintro ⟨_, ⟨⟩, hj⟩
      exact congrArg some (hs.apart i j list hi hj)

theorem knows_lt (hs : Represents w s) {j : Nat} (hj : s.lists[j]? = some list) :
    list ≠ s.pinLists.length := Nat.ne_of_lt (hs.stored list (knows_of_lists hj))

/-- Profile `k`, new or not, gets a new list. -/
theorem Represents.renew (hs : Represents w s) {w' : Lists} {k : Nat} {pins : List Pin}
    (hp : t.pinLists = s.pinLists ++ [pins])
    (hl : ∀ j : Nat, t.lists[j]? = if j = k then some s.pinLists.length else s.lists[j]?)
    (hc : t.source = s.source) (hh : t.held = s.held)
    (hw : ∀ j : Nat, w'.pins[j]? = if j = k then some pins else w.pins[j]?)
    (hheld : ∀ j, w'.held = some j ↔ j ≠ k ∧ w.held = some j) : Represents w' t where
  pins j := by
    have hat (m : Nat) (hm : m < s.pinLists.length) : t.pinsAt m = s.pinsAt m := by
      rw [pinsAt, hp, List.getElem?_append_left hm, pinsAt]
    rw [hw, hl]
    split
    · rw [Option.map_some, pinsAt, hp, List.getElem?_concat_length]
      rfl
    · rw [hs.pins]
      exact Option.map_congr fun m hm => (hat m (hs.stored m (knows_of_lists hm))).symm
  apart i j list hi hj := by
    rw [hl] at hi hj
    split at hi <;> split at hj
    · exact ‹i = k›.trans ‹j = k›.symm
    · cases hi
      exact absurd rfl (knows_lt hs hj)
    · cases hj
      exact absurd rfl (knows_lt hs hi)
    · exact hs.apart i j list hi hj
  source := by
    rw [hc, hh]
    refine ⟨fun hm => ?_, hs.source.2⟩
    obtain ⟨j, hj⟩ := List.getElem?_of_mem hm
    rw [hl] at hj
    split at hj
    · exact Nat.ne_of_lt (hs.stored s.source (.inl rfl)) (Option.some.inj hj).symm
    · exact hs.source.1 (List.mem_of_getElem? hj)
  stored m hk := by
    rw [hp, List.length_append, List.length_singleton]
    obtain hk | hk | hk := hk
    · exact Nat.lt_succ_of_lt (hs.stored m (.inl (hk.trans hc)))
    · obtain ⟨j, hj⟩ := List.getElem?_of_mem hk
      rw [hl] at hj
      split at hj
      · cases hj
        exact Nat.lt_succ_self _
      · exact Nat.lt_succ_of_lt (hs.stored m (knows_of_lists hj))
    · exact Nat.lt_succ_of_lt (hs.stored m (.inr (.inr (hh ▸ hk))))
  held j := by
    rw [hheld, hs.held, hh]
    constructor
    · rintro ⟨hj, list, hl', hi⟩
      exact ⟨list, hl', by rw [hl, if_neg hj, hi]⟩
    · rintro ⟨list, hl', hi⟩
      rw [hl] at hi
      split at hi
      · cases hi
        exact absurd (hs.stored _ (.inr (.inr hl'))) (Nat.lt_irrefl _)
      · exact ⟨‹_›, list, hl', hi⟩

theorem Lists.release_held (w : Lists) (i j : Nat) :
    (w.release i).held = some j ↔ j ≠ i ∧ w.held = some j := by
  unfold release
  split
  · rename_i h
    simp only [h, Option.some.injEq]
    constructor
    · rintro ⟨⟩
    · rintro ⟨hne, he⟩
      exact absurd he.symm hne
  · rename_i h
    refine ⟨fun hj => ⟨?_, hj⟩, And.right⟩
    rintro rfl
    exact h hj

theorem Represents.replace (hs : Represents w s) (hi : s.holders[i]? = some h) (p : Profile) :
    Represents ((w.release i).edit i p.pins) (s.replace i p) := by
  have hlt : i < w.pins.length := by
    have hw := hs.pins i
    rw [lists_of_holder hi] at hw
    exact (List.getElem?_eq_some_iff.1 hw).1
  have hpins : (w.release i).pins = w.pins := by
    unfold Lists.release
    split <;> rfl
  refine hs.renew (k := i) rfl (lists_setHolder hi _) rfl rfl (fun j => ?_) (w.release_held i)
  rw [Lists.edit, hpins]
  by_cases hj : j = i
  · subst hj
    simp only [List.getElem?_set_self hlt, if_true]
  · simp only [List.getElem?_set_ne (Ne.symm hj), hj, if_false]

theorem Represents.length (hs : Represents w s) : w.pins.length = s.lists.length := by
  have hn (n : Nat) : w.pins.length ≤ n ↔ s.lists.length ≤ n := by
    rw [← List.getElem?_eq_none_iff, ← List.getElem?_eq_none_iff, hs.pins, Option.map_eq_none_iff]
  exact Nat.le_antisymm ((hn _).2 (Nat.le_refl _)) ((hn _).1 (Nat.le_refl _))

theorem lists_addSharing (s : Session) (c : Option Nat) (p : Profile) :
    (s.addSharing c p).lists = s.lists ++ [s.pinLists.length] := by
  simp only [lists, addSharing, List.map_append, List.map_cons, List.map_nil]

theorem Represents.addSharing (hs : Represents w s) (c : Option Nat) (p : Profile) :
    Represents { w with pins := w.pins ++ [p.pins] } (s.addSharing c p) := by
  refine hs.renew (k := s.lists.length) rfl (fun j => ?_) rfl rfl (fun j => ?_) fun j => ?_
  · rw [lists_addSharing, getElem?_snoc]
  · rw [← hs.length]
    exact getElem?_snoc _ _ _
  · refine ⟨fun hj => ⟨?_, hj⟩, And.right⟩
    obtain ⟨list, -, hl⟩ := (hs.held j).1 hj
    exact Nat.ne_of_lt (List.getElem?_eq_some_iff.1 hl).1

end

-- ---------------------------------------------------------------------------
-- Pins along a history
-- ---------------------------------------------------------------------------

section
variable {w : Lists} {s t : Session} {i : Nat} {h : Holder}

theorem sparesLists_of_reads {step : Step} (hr : step.reads = true) : step.sparesLists = true := by
  cases step with
  | setServer | setIdentity | setCredentials | setCredentialField | setCredentialTable
  | appendToSource => rfl
  | _ => exact hr

theorem represents_start (p : Profile) (source : List Pin) :
    Represents ⟨[p.pins], none⟩ (start p source) where
  pins j := by cases j <;> rfl
  apart i j list hi hj := by
    have h {k : Nat} (hk : (start p source).lists[k]? = some list) : k = 0 := by
      cases k with
      | zero => rfl
      | succ k => cases hk
    rw [h hi, h hj]
  source := ⟨show 0 ∉ [1] by decide, nofun⟩
  stored list hk := by
    have hk : list = 0 ∨ list ∈ [1] ∨ none = some list := hk
    change list < 2
    simp only [List.mem_singleton, reduceCtorEq, or_false] at hk
    omega
  held j := ⟨nofun, fun ⟨_, hl, _⟩ => nomatch hl⟩

theorem pins_of_copy {p q : Profile} (hq : (copy p).result = .ok q) : q.pins = p.pins := by
  obtain ⟨_, _, -, -, -, -, -, rfl⟩ := Profile.create_ok.1 hq
  rfl

/-- Every effect moves the pins as `Lists.Moves` says. -/
theorem Represents.moves (hs : Represents w s) {step : Step} (hi : s.holders[i]? = some h)
    (he : Effect s i h step t) : ∃ w', Lists.Moves s w i step w' ∧ Represents w' t := by
  have hl := lists_of_holder hi
  have hw : w.pins[i]? = some (s.pinsOf h) := by
    rw [hs.pins, hl]
    rfl
  cases he with
  | reading hr => exact ⟨w, .spared (sparesLists_of_reads hr), hs⟩
  | server | identity =>
    exact ⟨w, .spared rfl, hs.congr (lists_setHolder_of_eq hi rfl) rfl rfl rfl⟩
  | @credentials _ c hc =>
    cases c <;> exact ⟨w, .spared rfl, hs.congr (lists_setHolder_of_eq hi rfl) rfl rfl rfl⟩
  | field | table => exact ⟨w, .spared rfl, hs.congr rfl rfl rfl rfl⟩
  | pins hp => exact ⟨_, .edited hw hp, hs.setPins hl _⟩
  | source hp => exact ⟨w, .spared rfl, hs.setPins_other (.inl rfl) hs.source.1 _⟩
  | hold => exact ⟨_, .held, hs.hold hl⟩
  | @held _ p list hp hheld =>
    cases hw : w.held with
    | none =>
      refine ⟨w, .released hw, hs.setPins_other (.inr (.inr hheld)) (fun hm => ?_) _⟩
      obtain ⟨j, hj⟩ := List.getElem?_of_mem hm
      exact nomatch hw.symm.trans ((hs.held j).2 ⟨list, hheld, hj⟩)
    | some j =>
      obtain ⟨_, hheld', hj⟩ := (hs.held j).1 hw
      obtain rfl : list = _ := Option.some.inj (hheld.symm.trans hheld')
      have hpins : w.pins[j]? = some (s.pinsAt list) := by rw [hs.pins, hj, Option.map_some]
      exact ⟨_, .appended hp hw hpins, hs.setPins hj _⟩
  | nothingHeld hheld =>
    refine ⟨w, .released ?_, hs⟩
    cases hw : w.held with
    | none => rfl
    | some j =>
      obtain ⟨_, hl, -⟩ := (hs.held j).1 hw
      exact nomatch hheld.symm.trans hl
  | @reload p hp =>
    have hm : p.pins = s.pinsOf h := Profile.pins_of_decode_toDocument hp
    exact ⟨_, .reloaded hw, hm ▸ hs.replace hi p⟩
  | reloadText ht hp =>
    have hview : s.profile? i = some (s.view h) := by rw [profile?, hi, Option.map_some]
    refine ⟨_, .reloadedText hw hview ht hp fun layout ho hspaced => ?_, hs.replace hi _⟩
    obtain ⟨-, layout', ho', ht⟩ := Profile.encodeText_ok.1 ht
    obtain rfl : layout = layout' := Except.ok.inj (ho.symm.trans ho')
    exact Profile.pins_of_ofText_toText hspaced ht hp
  | @fork p hp =>
    have hm : p.pins = s.pinsOf h := pins_of_copy hp
    exact ⟨_, .forked hw, hm ▸ hs.addSharing h.credentials p⟩

theorem represents_history (p : Profile) (source : List Pin) (steps : List (Nat × Step)) :
    ∃ w, Lists.Along (start p source) p.pins ((start p source).history steps) w ∧
      Represents w ((start p source).run steps) := by
  -- Besides the pins, the session itself is what its history makes of the first one.
  refine (history_induction (P := fun past s => s = (start p source).run past.reverse ∧
    ∃ w, Lists.Along (start p source) p.pins past w ∧ Represents w s)
    ⟨rfl, _, .start, represents_start p source⟩ ?_ steps).2
  rintro past s i step h ⟨rfl, w, hw, hs⟩ hi he
  obtain ⟨w', hm, ht⟩ := hs.moves hi he
  exact ⟨(run_reverse_cons _ i step past).symm, w', .step hw hm, ht⟩

theorem Represents.pins_profiles (hs : Represents w s) : s.profiles.map Profile.pins = w.pins := by
  apply List.ext_getElem?
  intro j
  rw [hs.pins, lists, profiles, List.map_map, List.getElem?_map, List.getElem?_map, Option.map_map]
  rfl

theorem Represents.not_knows (hs : Represents w s) : ¬s.Knows s.pinLists.length :=
  fun hk => Nat.lt_irrefl _ (hs.stored _ hk)

theorem Effect.of_reload {step : Step} (he : Effect s i h step t)
    (hs : step = .reload ∨ ∃ options, step = .reloadText options) : ∃ p, t = s.replace i p := by
  cases he with
  | reload => exact ⟨_, rfl⟩
  | reloadText => exact ⟨_, rfl⟩
  | reading hr => obtain rfl | ⟨options, rfl⟩ := hs <;> cases hr
  | pins hp => obtain rfl | ⟨options, rfl⟩ := hs <;> cases hp
  | _ => simp at hs

theorem lists_replace (s : Session) (i : Nat) (p : Profile) :
    (s.replace i p).lists = s.lists.set i s.pinLists.length := by
  simp only [lists, replace, allocate, setHolder, List.map_set]

end

theorem Origin.pins_of_addresses {server identity : Value} {c : Option (List Entry)}
    {pins : List (List Entry)} {p : Profile}
    (hp : (Origin.addresses server identity c pins).profile.result = .ok p) :
    Origin.checkPins pins = .ok p.pins := by
  simp only [Origin.profile, Logged.bind_result_ok, Logged.ofExcept_ok, Except.mapError_ok,
    Logged.mapError_ok] at hp
  obtain ⟨_, -, _, hc, hp⟩ := hp
  obtain ⟨_, _, -, -, -, -, -, rfl⟩ := Profile.create_ok.1 hp
  exact hc

/-- After every run a profile has the pins that its own history gives it. No two profiles have one
list, and none has the list of the caller. A fork and a profile that is reloaded get a list that
nobody had before. -/
theorem pins_isolated {o : Origin} {s₀ : Session} (ho : o.session.result = .ok s₀)
    (steps : List (Nat × Step)) :
    ∃ p, o.profile.result = .ok p ∧
      (∀ server identity c pins, o = .addresses server identity c pins →
        Origin.checkPins pins = .ok p.pins) ∧
      let s := s₀.run steps
      (∃ w, Lists.Along s₀ p.pins (s₀.history steps) w ∧ s.profiles.map Profile.pins = w.pins) ∧
      (∀ i j list : Nat, s.lists[i]? = some list → s.lists[j]? = some list → i = j) ∧
      s.source ∉ s.lists ∧
      (∀ i reply, (s.step i .fork).2.result = .ok reply →
        ∃ list, (s.step i .fork).1.lists = s.lists ++ [list] ∧ ¬s.Knows list) ∧
      ∀ i step reply, step = .reload ∨ (∃ options, step = .reloadText options) →
        (s.step i step).2.result = .ok reply →
          ∃ list, (s.step i step).1.lists = s.lists.set i list ∧ ¬s.Knows list := by
  obtain ⟨p, hp, rfl⟩ := Origin.session_ok.1 ho
  refine ⟨p, hp, ?_, ?_⟩
  · rintro server identity c pins rfl
    exact Origin.pins_of_addresses hp
  obtain ⟨w, hw, hs⟩ := represents_history p o.source steps
  generalize (start p o.source).run steps = s at hs ⊢
  refine ⟨⟨w, hw, hs.pins_profiles⟩, hs.apart, hs.source.1, fun i reply hr => ?_,
    fun i step reply hstep hr => ?_⟩
  · obtain ⟨h, hi, he⟩ := effect_of_ok hr
    obtain ⟨q, hq⟩ := he.of_fork
    exact ⟨_, by rw [hq, lists_addSharing], hs.not_knows⟩
  · obtain ⟨h, hi, he⟩ := effect_of_ok hr
    obtain ⟨q, hq⟩ := he.of_reload hstep
    exact ⟨_, by rw [hq, lists_replace], hs.not_knows⟩

theorem pins_isolated_held_list :
    ∃ s₀ p w, (Origin.addresses (.text "http://a") .null none []).session.result = .ok s₀ ∧
      Lists.Along s₀ p (s₀.history [(0, .holdPins), (0, .fork), (0, .reload),
        (0, .appendToHeld [(.text "hostname", .text "h"), (.text "public_key_hash", .text "k")])])
        w ∧ w.pins = [[], []] := by
  obtain ⟨p, -, -, ⟨w, hw, hs⟩, -⟩ := pins_isolated
    (o := .addresses (.text "http://a") .null none []) rfl
    [(0, .holdPins), (0, .fork), (0, .reload),
      (0, .appendToHeld [(.text "hostname", .text "h"), (.text "public_key_hash", .text "k")])]
  exact ⟨_, _, w, rfl, hw, hs.symm⟩

/-- A reload by way of text does not always keep the pins. In ASCII it joins two surrogates, and
separators that say more than a separator change what is read. -/
theorem not_keepsPins_reloadText :
    (∃ s₀, (Origin.addresses (.text "http://a") .null none
        [[(.text "hostname", .text [0xD83D, 0xDE00]), (.text "public_key_hash", .text "k")]]
        ).session.result = .ok s₀ ∧
      s₀.profiles.map Profile.pins = [[⟨[0xD83D, 0xDE00], "k"⟩]] ∧
      (s₀.step 0 (.reloadText [])).2.result.toOption.isSome = true ∧
      (s₀.step 0 (.reloadText [])).1.profiles.map Profile.pins = [[⟨[0x1F600], "k"⟩]]) ∧
    ∃ s₀, (Origin.addresses (.text "http://a") .null none
        [[(.text "hostname", .text "h"), (.text "public_key_hash", .text "k")]]
        ).session.result = .ok s₀ ∧
      s₀.profiles.map Profile.pins = [[⟨"h", "k"⟩]] ∧
      let step : Step := .reloadText [(.text "separators",
        .list [.text ", ", .text ": \"http://b\", \"certificate_pins\": "])]
      (s₀.step 0 step).2.result.toOption.isSome = true ∧
      (s₀.step 0 step).1.profiles.map Profile.pins = [[⟨"http://b", "http://b"⟩]] := by
  constructor
  · refine ⟨_, rfl, rfl, ?_, ?_⟩
    · decide +kernel
    · decide +kernel
  · refine ⟨_, rfl, rfl, ?_, ?_⟩
    · decide +kernel
    · decide +kernel

end Session

end ConnectionProfile
