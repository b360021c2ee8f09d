import ConnectionProfile.Proofs.Value.Puts
import ConnectionProfile.Yaml.Graph.Unfold

/-!
# Values of collections

The value of a collection comes from the values of what it holds. It stays the same when more
values become known (`Contents.value?_mono`), and it is never null and never a text. So what is
settled of the collections of a graph are their values (`knows_settled`).
-/

namespace ConnectionProfile.Yaml

variable {known next : Known} {v : Value}

theorem mapM_eq_some {α β : Type} {f : α → Option β} {xs : List α} {ys : List β} :
    xs.mapM f = some ys ↔ List.Forall₂ (fun x y => f x = some y) xs ys := by
  induction xs generalizing ys with
  | nil => cases ys <;> simp
  | cons x xs ih =>
    simp only [List.mapM_cons, Option.bind_eq_bind, Option.bind_eq_some_iff, ih]
    constructor
    · rintro ⟨y, hy, zs, hzs, ⟨⟩⟩
      exact .cons hy hzs
    · rintro (_ | ⟨hy, hzs⟩)
      exact ⟨_, hy, _, hzs, rfl⟩

theorem map_mapM_mono {α β γ : Type} {f g : α → Option β} {xs : List α} {k : List β → γ} {c : γ}
    (hfg : ∀ x y, f x = some y → g x = some y) (h : (xs.mapM f).map k = some c) :
    (xs.mapM g).map k = some c := by
  obtain ⟨ys, hys, rfl⟩ := Option.map_eq_some_iff.1 h
  rw [mapM_eq_some.2 ((mapM_eq_some.1 hys).imp hfg), Option.map_some]

-- ---------------------------------------------------------------------------
-- References
-- ---------------------------------------------------------------------------

/-- The reference has a value that is known. -/
def Ref.Is (known : Known) (r : Ref) (v : Value) : Prop := r.value? known = some v

theorem Ref.is_value {w : Value} : (value w).Is known v ↔ w = v := Option.some_inj

theorem Ref.is_collection {n : Nat} : (collection n).Is known v ↔ known[n]? = some (some v) := by
  rw [Is, value?]
  cases known[n]? <;> simp

theorem Ref.is_values (fs : List Entry) :
    Entries.Correspond (Ref.Is known) (fs.map fun (k, v) => (k, value v)) fs :=
  List.forall₂_map_left_iff.2 (List.forall₂_same.2 fun _ _ => ⟨rfl, is_value.2 rfl⟩)

/-- What is known stays known. -/
def Known.Extends (next known : Known) : Prop :=
  ∀ (n : Nat) (v : Value), known[n]? = some (some v) → next[n]? = some (some v)

theorem Known.extends_append (known more : Known) : (known ++ more).Extends known := by
  intro n v h
  rw [Array.getElem?_append, if_pos (Array.getElem?_eq_some_iff.1 h).1, h]

theorem Ref.Is.mono {r : Ref} (h : r.Is known v) (hn : next.Extends known) : r.Is next v := by
  cases r with
  | value w => exact h
  | collection n => exact is_collection.2 (hn _ _ (is_collection.1 h))

-- ---------------------------------------------------------------------------
-- Contents
-- ---------------------------------------------------------------------------

namespace Contents

theorem value?_map {es : List (Value × Ref)} : (map es).value? known = some v ↔
    ∃ fs, Entries.Correspond (Ref.Is known) es fs ∧ v = .map fs := by
  have he (e : Value × Ref) (f : Entry) :
      entryOf? known e = some f ↔ e.1 = f.1 ∧ e.2.Is known f.2 := by
    obtain ⟨k, r⟩ := e
    obtain ⟨l, w⟩ := f
    simp only [entryOf?, Ref.Is, Option.map_eq_some_iff, Prod.mk.injEq]
    constructor
    · rintro ⟨_, hr, rfl, rfl⟩
      exact ⟨rfl, hr⟩
    · rintro ⟨rfl, hr⟩
      exact ⟨_, hr, rfl, rfl⟩
  simp only [value?, Option.map_eq_some_iff, mapM_eq_some, he, Entries.Correspond, @eq_comm _ v]

/-- Only a mapping has the value of a mapping. -/
theorem eq_map_of_value? {c : Contents} {fs : List Entry} (h : c.value? known = some (.map fs)) :
    ∃ es, c = map es := by
  cases c with
  | map es => exact ⟨es, rfl⟩
  | set keys => cases h
  | _ => obtain ⟨_, -, ⟨⟩⟩ := Option.map_eq_some_iff.1 h

/-- The value of a collection is never a single one. -/
theorem value?_cases {c : Contents} (h : c.value? known = some v) :
    (∃ vs, v = .list vs) ∨ (∃ fs, v = .map fs) ∨ ∃ keys, v = .set keys := by
  cases c with
  | map es =>
    obtain ⟨fs, -, rfl⟩ := Option.map_eq_some_iff.1 h
    exact .inr (.inl ⟨fs, rfl⟩)
  | set keys =>
    cases h
    exact .inr (.inr ⟨keys, rfl⟩)
  | _ =>
    obtain ⟨vs, -, rfl⟩ := Option.map_eq_some_iff.1 h
    exact .inl ⟨vs, rfl⟩

theorem value?_mono {c : Contents} (h : c.value? known = some v) (hn : next.Extends known) :
    c.value? next = some v := by
  have hr (r : Ref) (w : Value) (hw : r.value? known = some w) : r.value? next = some w :=
    Ref.Is.mono hw hn
  cases c with
  | list items => exact map_mapM_mono hr h
  | map es =>
    refine map_mapM_mono (fun e f he => ?_) h
    obtain ⟨w, hw, rfl⟩ := Option.map_eq_some_iff.1 he
    rw [entryOf?, hr _ _ hw, Option.map_some]
  | set keys => exact h
  | pairs ps =>
    refine map_mapM_mono (fun p w hw => ?_) h
    simp only [pairOf?, Option.bind_eq_bind, Option.bind_eq_some_iff] at hw ⊢
    obtain ⟨x, hx, y, hy, hw⟩ := hw
    exact ⟨x, hr _ _ hx, y, hr _ _ hy, hw⟩

end Contents

-- ---------------------------------------------------------------------------
-- What is known
-- ---------------------------------------------------------------------------

/-- The values that are known are those of the collections. -/
structure Knows (s : Array Contents) (known : Known) : Prop where
  size : known.size = s.size
  value : ∀ {n : Nat} {v : Value}, known[n]? = some (some v) →
    ∃ c : Contents, s[n]? = some c ∧ c.value? known = some v

variable {s : Array Contents}

namespace Knows

/-- The values that are known of new collections can depend on each other. -/
theorem append (h : Knows s known) {cs : List Contents} {vs : List Value}
    (hc : List.Forall₂ (fun c v => c.value? (known ++ (vs.map some).toArray) = some v) cs vs) :
    Knows (s ++ cs.toArray) (known ++ (vs.map some).toArray) where
  size := by simp [h.size, hc.length_eq]
  value {n v} hn := by
    rw [Array.getElem?_append] at hn ⊢
    rw [← h.size]
    split at hn
    · obtain ⟨c, hc, hv⟩ := h.value hn
      exact ⟨c, by rw [if_pos ‹_›, hc], Contents.value?_mono hv (Known.extends_append _ _)⟩
    · rw [if_neg ‹_›]
      generalize n - known.size = i at hn
      rw [List.getElem?_toArray, List.getElem?_map, Option.map_eq_some_iff] at hn
      obtain ⟨_, hv, ⟨⟩⟩ := hn
      obtain ⟨hi, rfl⟩ := List.getElem?_eq_some_iff.1 hv
      have hl : i < cs.length := by rwa [hc.length_eq]
      exact ⟨cs[i], by simp, hc.get hl hi⟩

end Knows

theorem knows_nothing (s : Array Contents) : Knows s (Array.replicate s.size none) where
  size := Array.size_replicate
  value h := by simp [Array.getElem?_replicate] at h

/-- A value that is found is one more that is known. -/
theorem knows_set (h : Knows s known) {n : Nat} (hn : ¬(known[n]?).join.isSome = true) :
    Knows s (known.setIfInBounds n ((s[n]?).bind (·.value? known))) := by
  have hnext : Known.Extends (known.setIfInBounds n ((s[n]?).bind (·.value? known))) known := by
    intro m v hv
    have hne : n ≠ m := by
      rintro rfl
      simp [hv] at hn
    rw [Array.getElem?_setIfInBounds, if_neg hne, hv]
  refine ⟨by rw [Array.size_setIfInBounds, h.size], fun {m v} hv => ?_⟩
  rw [Array.getElem?_setIfInBounds] at hv
  split at hv
  case isTrue heq =>
    split at hv
    · obtain ⟨c, hc, hw⟩ := Option.bind_eq_some_iff.1 (Option.some.inj hv)
      exact ⟨c, heq ▸ hc, Contents.value?_mono hw hnext⟩
    · cases hv
  case isFalse =>
    obtain ⟨c, hc, hw⟩ := h.value hv
    exact ⟨c, hc, Contents.value?_mono hw hnext⟩

theorem knows_settleOnce (h : Knows s known) : Knows s (Known.settleOnce s known) := by
  unfold Known.settleOnce
  induction List.range s.size with
  | nil => exact h
  | cons n ns ih =>
    rw [List.foldr_cons]
    split
    · exact ih
    · exact knows_set ih ‹_›

/-- What is settled is known. -/
theorem knows_settle (h : Knows s known) (fuel : Nat) : Knows s (Known.settle s fuel known) := by
  induction fuel generalizing known with
  | zero => exact h
  | succ fuel ih =>
    rw [Known.settle]
    split
    · exact h
    · exact ih (knows_settleOnce h)

theorem unfolded_of_settled {settled : Known} {n : Nat} (h : Knows s settled)
    (hn : settled[n]? = some (some v)) (depth : Nat) :
    (Known.unfolded s settled depth)[n]? = some (some v) := by
  obtain ⟨c, hc, -⟩ := h.value hn
  cases depth <;> rw [Known.unfolded, Array.getElem?_mapIdx, hc, Option.map_some, hn] <;> rfl

/-- The values of the collections that can be settled. -/
def settled (s : Array Contents) : Known :=
  Known.settle s (s.size + 1) (Array.replicate s.size none)

theorem knows_settled (s : Array Contents) : Knows s (settled s) :=
  knows_settle (knows_nothing s) _

/-- A graph whose first node can be settled has its value. -/
theorem Graph.value_of_settled {g : Graph} {n : Nat} (hg : g.build = .ok (.collection n, s))
    (hn : (Ref.collection n).Is (settled s) v) : g.value = .ok v := by
  have hu := Ref.is_collection.2 (unfolded_of_settled (knows_settled s) (Ref.is_collection.1 hn)
    unfoldDepth)
  rw [Graph.value, hg]
  exact congrArg (fun v? : Option Value => Except.ok (v?.getD .null)) hu

end ConnectionProfile.Yaml
