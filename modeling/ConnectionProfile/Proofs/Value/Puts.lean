import ConnectionProfile.Value
import Mathlib.Data.List.Forall2

/-!
# Puts one after the other

A put gives one key a value, in the place of the key or else at the end. Of several puts with
different keys each gives its own key a value, and the keys that are new come after the old ones in
the order of the puts (`keys_putEach`). To make the same puts again changes nothing.
-/

namespace ConnectionProfile.Entries

variable {α : Type} {key k : Text} {v : α} {es : List (Value × α)}

-- ---------------------------------------------------------------------------
-- One put
-- ---------------------------------------------------------------------------

theorem get?_eq_under? (key : Text) (es : List Entry) : get? key es = under? key es := by
  induction es with
  | nil => rfl
  | cons e es ih =>
    obtain ⟨k, v⟩ := e
    by_cases hk : k = .text key
    · subst hk
      rw [get?, under?, if_pos rfl, if_pos (Value.sameKey_text.2 rfl)]
    · rw [under?, if_neg (mt Value.sameKey_text.1 hk), ← ih]
      cases k with
      | text t => exact if_neg fun ht => hk (by rw [ht])
      | _ => rfl

theorem under?_eq_none : under? key es = none ↔ .text key ∉ keys es := by
  induction es with
  | nil => simp [under?, keys]
  | cons e es ih =>
    obtain ⟨k, v⟩ := e
    have hc : Value.text key ∉ keys ((k, v) :: es) ↔ k ≠ .text key ∧ .text key ∉ keys es := by
      rw [keys, List.map_cons, List.mem_cons, not_or, ne_comm]
      rfl
    rw [hc, ← ih, under?]
    by_cases hk : k = .text key
    · simp [hk, Value.sameKey_text.2]
    · simp [hk, mt Value.sameKey_text.1 hk]

/-- If no key is there twice, leaving out entries by their values leaves out the values. -/
theorem under?_filter (p : α → Bool) (hn : (keys es).Nodup) :
    under? key (es.filter fun e => p e.2) = (under? key es).filter p := by
  induction es with
  | nil => rfl
  | cons e es ih =>
    obtain ⟨l, w⟩ := e
    obtain ⟨hl, hes⟩ := List.nodup_cons.1 hn
    have ih := ih hes
    rw [List.filter_cons, under?]
    by_cases hk : l.sameKey (.text key) = true
    · obtain rfl := Value.sameKey_text.1 hk
      rw [if_pos hk, Option.filter_some]
      split
      · rw [under?, if_pos hk]
      · rw [ih, under?_eq_none.2 hl, Option.filter_none]
    · rw [if_neg hk]
      split
      · rw [under?, if_neg hk, ih]
      · exact ih

theorem under?_put (key k : Text) (v : α) (es : List (Value × α)) :
    under? key (put (.text k) v es) = if k = key then some v else under? key es := by
  have ht : (Value.text k).sameKey (.text key) = true ↔ k = key :=
    Value.sameKey_text.trans (by rw [Value.text.injEq])
  induction es with
  | nil => simp only [put, under?, ht]
  | cons e es ih =>
    obtain ⟨l, w⟩ := e
    rw [put]
    by_cases hl : l.sameKey (.text k) = true
    · obtain rfl := Value.sameKey_text.1 hl
      simp only [hl, if_true, under?, ht]
      split <;> rfl
    · rw [if_neg hl, under?, under?, ih]
      by_cases hk : k = key
      · subst hk
        rw [if_neg hl, if_pos rfl, if_pos rfl]
      · rw [if_neg hk, if_neg hk]

theorem keys_put (k : Text) (v : α) (es : List (Value × α)) :
    keys (put (.text k) v es) = keys es ++ if (under? k es).isNone then [.text k] else [] := by
  induction es with
  | nil => rfl
  | cons e es ih =>
    obtain ⟨l, w⟩ := e
    rw [put, under?]
    by_cases hl : l.sameKey (.text k) = true
    · rw [if_pos hl, if_pos hl]
      exact (List.append_nil _).symm
    · rw [if_neg hl, if_neg hl]
      exact congrArg (l :: ·) ih

theorem put_eq_self (h : under? k es = some v) : put (.text k) v es = es := by
  induction es with
  | nil => cases h
  | cons e es ih =>
    obtain ⟨l, w⟩ := e
    rw [under?] at h
    rw [put]
    by_cases hl : l.sameKey (.text k) = true
    · rw [if_pos hl] at h
      rw [if_pos hl, Option.some.inj h]
    · rw [if_neg hl] at h
      rw [if_neg hl, ih h]

/-- A put does not touch the entries under other keys. -/
theorem filter_put {p : Value → Bool} (h : p (.text k) = false) :
    (put (.text k) v es).filter (fun e => p e.1) = es.filter fun e => p e.1 := by
  induction es with
  | nil => simp [put, h]
  | cons e es ih =>
    obtain ⟨l, w⟩ := e
    rw [put]
    by_cases hl : l.sameKey (.text k) = true
    · obtain rfl := Value.sameKey_text.1 hl
      rw [if_pos hl, List.filter_cons_of_neg (by simp [h]), List.filter_cons_of_neg (by simp [h])]
    · rw [if_neg hl, List.filter_cons, List.filter_cons, ih]

-- ---------------------------------------------------------------------------
-- Several puts
-- ---------------------------------------------------------------------------

/-- Puts a value, if there is one. -/
def putSome (k : Text) : Option α → List (Value × α) → List (Value × α)
  | some v, es => put (.text k) v es
  | none, es => es

def putEach : List (Text × Option α) → List (Value × α) → List (Value × α)
  | [], es => es
  | (k, v) :: puts, es => putEach puts (putSome k v es)

theorem under?_putSome (key k : Text) (v : Option α) (es : List (Value × α)) :
    under? key (putSome k v es) = if k = key then v.or (under? key es) else under? key es := by
  cases v with
  | none => exact (ite_self _).symm
  | some v => exact under?_put ..

theorem keys_putSome (k : Text) (v : Option α) (es : List (Value × α)) :
    keys (putSome k v es) =
      keys es ++ if v.isSome && (under? k es).isNone then [.text k] else [] := by
  cases v with
  | none => exact (List.append_nil _).symm
  | some v => exact keys_put ..

variable {puts : List (Text × Option α)}

theorem putEach_append (puts more : List (Text × Option α)) (es : List (Value × α)) :
    putEach (puts ++ more) es = putEach more (putEach puts es) := by
  induction puts generalizing es with
  | nil => rfl
  | cons c puts ih => exact ih _

theorem under?_putEach_of_notMem (h : key ∉ puts.map Prod.fst) (es : List (Value × α)) :
    under? key (putEach puts es) = under? key es := by
  induction puts generalizing es with
  | nil => rfl
  | cons c puts ih =>
    obtain ⟨k, v⟩ := c
    obtain ⟨hk, hc⟩ := not_or.1 (mt List.mem_cons.2 h)
    rw [putEach, ih hc, under?_putSome, if_neg (Ne.symm hk)]

theorem under?_putEach (hn : (puts.map Prod.fst).Nodup) {v : Option α} (h : (key, v) ∈ puts)
    (es : List (Value × α)) : under? key (putEach puts es) = v.or (under? key es) := by
  induction puts generalizing es with
  | nil => cases h
  | cons c puts ih =>
    obtain ⟨k, w⟩ := c
    obtain ⟨hk, hc⟩ := List.nodup_cons.1 hn
    rw [putEach]
    obtain h | h := List.mem_cons.1 h
    · cases h
      rw [under?_putEach_of_notMem hk, under?_putSome, if_pos rfl]
    · have hne : k ≠ key := by
        rintro rfl
        exact hk (List.mem_map.2 ⟨_, h, rfl⟩)
      rw [ih hc h, under?_putSome, if_neg hne]

theorem keys_putEach (hn : (puts.map Prod.fst).Nodup) (es : List (Value × α)) :
    keys (putEach puts es) = keys es ++
      (puts.filter fun c => c.2.isSome && (under? c.1 es).isNone).map fun c => .text c.1 := by
  induction puts generalizing es with
  | nil => exact (List.append_nil _).symm
  | cons c puts ih =>
    obtain ⟨k, v⟩ := c
    obtain ⟨hk, hc⟩ := List.nodup_cons.1 hn
    -- The first put has no part in whether the keys of the others are new.
    have hrest : (puts.filter fun c => c.2.isSome && (under? c.1 (putSome k v es)).isNone) =
        puts.filter fun c => c.2.isSome && (under? c.1 es).isNone := by
      refine List.filter_congr fun c hm => ?_
      have hne : k ≠ c.1 := by
        rintro rfl
        exact hk (List.mem_map.2 ⟨_, hm, rfl⟩)
      rw [under?_putSome, if_neg hne]
    rw [putEach, ih hc, hrest, keys_putSome, List.append_assoc, List.filter_cons]
    split <;> rfl

theorem filter_putEach {p : Value → Bool} (h : ∀ k ∈ puts.map Prod.fst, p (.text k) = false)
    (es : List (Value × α)) :
    (putEach puts es).filter (fun e => p e.1) = es.filter fun e => p e.1 := by
  induction puts generalizing es with
  | nil => rfl
  | cons c puts ih =>
    obtain ⟨k, v⟩ := c
    obtain ⟨hk, hc⟩ := List.forall_mem_cons.1 h
    rw [putEach, ih hc]
    cases v with
    | none => rfl
    | some v => exact filter_put hk

/-- Puts of what is there already change nothing. -/
theorem putEach_eq_self (h : ∀ c ∈ puts, ∀ v ∈ c.2, under? c.1 es = some v) :
    putEach puts es = es := by
  induction puts with
  | nil => rfl
  | cons c puts ih =>
    obtain ⟨k, v⟩ := c
    obtain ⟨hk, hc⟩ := List.forall_mem_cons.1 h
    have hput : putSome k v es = es := by
      cases v with
      | none => rfl
      | some v => exact put_eq_self (hk v rfl)
    rw [putEach, hput, ih hc]

theorem putEach_putEach (hn : (puts.map Prod.fst).Nodup) (es : List (Value × α)) :
    putEach puts (putEach puts es) = putEach puts es := by
  refine putEach_eq_self fun c hc v hv => ?_
  rw [under?_putEach hn hc, Option.mem_def.1 hv]
  rfl

-- ---------------------------------------------------------------------------
-- Entries that correspond
-- ---------------------------------------------------------------------------

section
variable {β : Type} {R : α → β → Prop} {w : β} {fs : List (Value × β)}

/-- Entries under the same keys, with values that are related. -/
def Correspond (R : α → β → Prop) : List (Value × α) → List (Value × β) → Prop :=
  List.Forall₂ fun e f => e.1 = f.1 ∧ R e.2 f.2

theorem Correspond.mono {S : α → β → Prop} (h : Correspond R es fs) (hRS : ∀ v w, R v w → S v w) :
    Correspond S es fs :=
  h.imp fun _ _ hef => ⟨hef.1, hRS _ _ hef.2⟩

theorem Correspond.under? (h : Correspond R es fs) (key : Text) :
    Option.Rel R (under? key es) (under? key fs) := by
  induction h with
  | nil => exact .none
  | @cons e f es fs hef _ ih =>
    obtain ⟨k, v⟩ := e
    obtain ⟨_, w⟩ := f
    obtain ⟨rfl, hv⟩ := hef
    simp only [Entries.under?]
    split
    · exact .some hv
    · exact ih

theorem Correspond.put (h : Correspond R es fs) (k : Value) (hv : R v w) :
    Correspond R (put k v es) (put k w fs) := by
  induction h with
  | nil => exact .cons ⟨rfl, hv⟩ .nil
  | @cons e f es fs hef hrest ih =>
    obtain ⟨l, u⟩ := e
    obtain ⟨_, x⟩ := f
    obtain ⟨rfl, hu⟩ := hef
    simp only [Entries.put]
    split
    · exact .cons ⟨rfl, hv⟩ hrest
    · exact .cons ⟨rfl, hu⟩ ih

theorem Correspond.putEach {puts : List (Text × Option α)} {puts' : List (Text × Option β)}
    (hp : List.Forall₂ (fun c d => c.1 = d.1 ∧ Option.Rel R c.2 d.2) puts puts')
    (h : Correspond R es fs) : Correspond R (putEach puts es) (putEach puts' fs) := by
  induction hp generalizing es fs with
  | nil => exact h
  | @cons c d puts puts' hcd _ ih =>
    obtain ⟨k, v⟩ := c
    obtain ⟨_, w⟩ := d
    obtain ⟨rfl, hv⟩ := hcd
    refine ih ?_
    cases hv with
    | none => exact h
    | some hv => exact h.put _ hv

end

end ConnectionProfile.Entries
