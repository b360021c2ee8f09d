import ConnectionProfile.Proofs.Json.Written
import ConnectionProfile.Proofs.Text.Quoted
import ConnectionProfile.Value.Display

/-!
# Redacted values

A value with the texts under some keys hidden, in every mapping that is part of it. Two values that
are the same when they are redacted are shown alike only if they are the same.
-/

namespace ConnectionProfile

namespace Value

/-- The value with its text hidden, if it is one. -/
def hidden : Value → Value
  | .text _ => .text []
  | v => v

@[simp] theorem isNull_hidden (v : Value) : v.hidden.isNull = v.isNull := by
  cases v <;> rfl

/-- Only texts are hidden. -/
theorem hidden_eq_hidden {v w : Value} (h : v.hidden = w.hidden) :
    v = w ∨ ∃ t u, v = .text t ∧ w = .text u := by
  cases v with
  | text t =>
    cases w with
    | text u => exact .inr ⟨t, u, rfl, rfl⟩
    | _ => cases h
  | _ =>
    cases w with
    | text u => cases h
    | _ => exact .inl h

mutual
/-- The value with the texts under the keys in `p` hidden. -/
def redacted (p : Value → Bool) : Value → Value
  | .list xs => .list (redactedItems p xs)
  | .map es => .map (redactedMembers p es)
  | v => v

def redactedItems (p : Value → Bool) : List Value → List Value
  | [] => []
  | x :: xs => x.redacted p :: redactedItems p xs

def redactedMembers (p : Value → Bool) : List Entry → List Entry
  | [] => []
  | (k, v) :: es => (k, if p k then (v.redacted p).hidden else v.redacted p) :: redactedMembers p es
end

variable {p : Value → Bool}

/-- The value as it is redacted under a key. -/
def redactedUnder (p : Value → Bool) (k v : Value) : Value :=
  if p k then (v.redacted p).hidden else v.redacted p

theorem redactedItems_eq_map (p : Value → Bool) (xs : List Value) :
    redactedItems p xs = xs.map (redacted p) := by
  induction xs with
  | nil => rfl
  | cons x xs ih => rw [redactedItems, ih, List.map_cons]

theorem redactedMembers_eq_map (p : Value → Bool) (es : List Entry) :
    redactedMembers p es = es.map fun e => (e.1, redactedUnder p e.1 e.2) := by
  induction es with
  | nil => rfl
  | cons e es ih =>
    rw [redactedMembers, ih, List.map_cons]
    rfl

@[simp] theorem isNull_redacted (v : Value) : (v.redacted p).isNull = v.isNull := by
  cases v <;> simp only [redacted, isNull]

@[simp] theorem hidden_hidden (v : Value) : v.hidden.hidden = v.hidden := by
  cases v <;> rfl

theorem redacted_hidden (v : Value) : v.hidden.redacted p = (v.redacted p).hidden := by
  cases v <;> simp only [hidden, redacted]

mutual
theorem redacted_redacted : (v : Value) → (v.redacted p).redacted p = v.redacted p
  | .list xs => by
    rw [redacted, redacted, redactedItems_redactedItems xs]
  | .map es => by
    rw [redacted, redacted, redactedMembers_redactedMembers es]
  | .null | .bool _ | .int _ | .float _ | .text _ | .octets _ | .set _ | .pair _ _ | .date _
  | .dateTime _ => by simp only [redacted]

theorem redactedItems_redactedItems : (xs : List Value) →
    redactedItems p (redactedItems p xs) = redactedItems p xs
  | [] => rfl
  | x :: xs => by
    rw [redactedItems, redactedItems, redacted_redacted x, redactedItems_redactedItems xs]

theorem redactedMembers_redactedMembers : (es : List Entry) →
    redactedMembers p (redactedMembers p es) = redactedMembers p es
  | [] => rfl
  | (k, v) :: es => by
    rw [redactedMembers, redactedMembers, redactedMembers_redactedMembers es]
    split
    · rw [redacted_hidden, redacted_redacted v, hidden_hidden]
    · rw [redacted_redacted v]
end

@[simp] theorem isWritable_hidden (v : Value) : v.hidden.isWritable = v.isWritable := by
  cases v <;> simp only [hidden, isWritable]

mutual
theorem isWritable_redacted : (v : Value) → (v.redacted p).isWritable = v.isWritable
  | .list xs => by rw [redacted, isWritable, isWritable, areWritable_redactedItems xs]
  | .map es => by rw [redacted, isWritable, isWritable, areWritable_redactedMembers es]
  | .null | .bool _ | .int _ | .float _ | .text _ | .octets _ | .set _ | .pair _ _ | .date _
  | .dateTime _ => by simp only [redacted]

theorem areWritable_redactedItems : (xs : List Value) →
    areWritable (redactedItems p xs) = areWritable xs
  | [] => rfl
  | x :: xs => by
    rw [redactedItems, areWritable, areWritable, isWritable_redacted x,
      areWritable_redactedItems xs]

theorem areWritable_redactedMembers : (es : List Entry) →
    areWritableEntries (redactedMembers p es) = areWritableEntries es
  | [] => rfl
  | (k, v) :: es => by
    rw [redactedMembers, areWritableEntries, areWritableEntries, areWritable_redactedMembers es]
    split
    · rw [isWritable_hidden, isWritable_redacted v]
    · rw [isWritable_redacted v]
end

theorem redactedUnder_redactedUnder (k v : Value) :
    redactedUnder p k (redactedUnder p k v) = redactedUnder p k v := by
  unfold redactedUnder
  split
  · rw [redacted_hidden, redacted_redacted, hidden_hidden]
  · rw [redacted_redacted]

theorem redactedMembers_putText (k : Text) (v : Value) (es : List Entry) :
    redactedMembers p (Entries.putText k v es) =
      Entries.putText k (redactedUnder p (.text k) v) (redactedMembers p es) := by
  unfold Entries.putText
  induction es with
  | nil => rfl
  | cons e es ih =>
    obtain ⟨l, w⟩ := e
    rw [Entries.put]
    by_cases hl : l.sameKey (.text k) = true
    · obtain rfl := sameKey_text.1 hl
      simp only [redactedMembers, Entries.put, hl, if_true]
      rfl
    · simp only [redactedMembers, Entries.put, if_neg hl, ih]

theorem redacted_eq_list {w : Value} {zs : List Value} (h : w.redacted p = .list zs) :
    ∃ ys, w = .list ys ∧ redactedItems p ys = zs := by
  cases w with
  | list ys =>
    rw [redacted] at h
    exact ⟨ys, rfl, Value.list.inj h⟩
  | _ => simp [redacted] at h

theorem redacted_eq_map {w : Value} {gs : List Entry} (h : w.redacted p = .map gs) :
    ∃ fs, w = .map fs ∧ redactedMembers p fs = gs := by
  cases w with
  | map fs =>
    rw [redacted] at h
    exact ⟨fs, rfl, Value.map.inj h⟩
  | _ => simp [redacted] at h

/-- What is no collection is redacted to itself. -/
theorem eq_of_redacted_eq {v w : Value} (h : v.redacted p = w.redacted p)
    (hl : ∀ xs, v ≠ .list xs) (hm : ∀ es, v ≠ .map es) : v = w := by
  have hv : v.redacted p = v := by
    cases v with
    | list xs => exact absurd rfl (hl xs)
    | map es => exact absurd rfl (hm es)
    | _ => simp only [redacted]
  rw [hv] at h
  cases w with
  | list ys => exact absurd (h.trans (by rw [redacted])) (hl _)
  | map fs => exact absurd (h.trans (by rw [redacted])) (hm _)
  | _ => simpa only [redacted] using h

end Value

theorem Entries.get?_redactedMembers (p : Value → Bool) (key : Text) (es : List Entry) :
    get? key (Value.redactedMembers p es) =
      (get? key es).map (Value.redactedUnder p (.text key)) := by
  rw [Value.redactedMembers_eq_map]
  exact get?_map (fun e => Value.redactedUnder p e.1 e.2) key es

-- ---------------------------------------------------------------------------
-- Redacted values in messages
-- ---------------------------------------------------------------------------

namespace Value

variable {p : Value → Bool}

/-- What holds of values that are redacted alike holds of those that are redacted alike under a key,
since a quoted text shows where it ends. -/
theorem append_inj_under {k v w : Value} {x y : Text}
    (hi : v.redacted p = w.redacted p → v.quoted ++ x = w.quoted ++ y → v = w ∧ x = y)
    (hr : redactedUnder p k v = redactedUnder p k w) (h : v.quoted ++ x = w.quoted ++ y) :
    v = w ∧ x = y := by
  unfold redactedUnder at hr
  split at hr
  · obtain hr | ⟨t, u, ht, hu⟩ := hidden_eq_hidden hr
    · exact hi hr h
    · cases v with
      | text t =>
        cases w with
        | text u =>
          rw [quoted, quoted] at h
          obtain ⟨rfl, rfl⟩ := Quoted.text_append_inj h
          exact ⟨rfl, rfl⟩
        | _ => simp [redacted] at hu
      | _ => simp [redacted] at ht
  · exact hi hr h

mutual
theorem quoted_append_inj : (v : Value) → {w : Value} → v.redacted p = w.redacted p →
    ∀ {x y : Text}, v.quoted ++ x = w.quoted ++ y → v = w ∧ x = y
  | .list [], w, hr, _, _, h => by
    rw [redacted, redactedItems] at hr
    obtain ⟨ys, rfl, hs⟩ := redacted_eq_list hr.symm
    cases ys with
    | nil => exact ⟨rfl, List.append_cancel_left h⟩
    | cons z ys => cases hs
  | .list (v :: xs), w, hr, _, _, h => by
    rw [redacted, redactedItems] at hr
    obtain ⟨ys, rfl, hs⟩ := redacted_eq_list hr.symm
    cases ys with
    | nil => cases hs
    | cons z ys =>
      obtain ⟨hv, hxs⟩ := List.cons.inj hs
      simp only [quoted, quotedList, Json.joinWith_cons, List.append_assoc] at h
      obtain ⟨rfl, hitems⟩ := quoted_append_inj v hv.symm (List.append_cancel_left h)
      obtain ⟨rfl, hend⟩ := quotedItems_append_inj xs hxs.symm hitems
      exact ⟨rfl, List.append_cancel_left hend⟩
  | .map [], w, hr, _, _, h => by
    rw [redacted, redactedMembers] at hr
    obtain ⟨fs, rfl, hs⟩ := redacted_eq_map hr.symm
    cases fs with
    | nil => exact ⟨rfl, List.append_cancel_left h⟩
    | cons f fs => cases hs
  | .map ((k, v) :: es), w, hr, _, _, h => by
    rw [redacted, redactedMembers] at hr
    obtain ⟨fs, rfl, hs⟩ := redacted_eq_map hr.symm
    cases fs with
    | nil => cases hs
    | cons f fs =>
      obtain ⟨l, w⟩ := f
      obtain ⟨hf, hes⟩ := List.cons.inj hs
      obtain ⟨rfl, hv⟩ := Prod.mk.inj hf
      simp only [quoted, quotedEntries, Json.joinWith_cons, List.append_assoc] at h
      have h := List.append_cancel_left (List.append_cancel_left (List.append_cancel_left h))
      obtain ⟨rfl, hmembers⟩ := append_inj_under (fun hr h => quoted_append_inj v hr h) hv.symm h
      obtain ⟨rfl, hend⟩ := quotedMembers_append_inj es hes.symm hmembers
      exact ⟨rfl, List.append_cancel_left hend⟩
  | .null, _, hr, _, _, h | .bool _, _, hr, _, _, h | .int _, _, hr, _, _, h
  | .float _, _, hr, _, _, h | .text _, _, hr, _, _, h | .octets _, _, hr, _, _, h
  | .set _, _, hr, _, _, h | .pair _ _, _, hr, _, _, h | .date _, _, hr, _, _, h
  | .dateTime _, _, hr, _, _, h => by
    obtain rfl := eq_of_redacted_eq hr nofun nofun
    exact ⟨rfl, List.append_cancel_left h⟩

theorem quotedItems_append_inj : (xs : List Value) → {ys : List Value} →
    redactedItems p xs = redactedItems p ys → ∀ {x y : Text},
      (quotedList xs).flatMap ((", " : Text) ++ ·) ++ x =
        (quotedList ys).flatMap ((", " : Text) ++ ·) ++ y → xs = ys ∧ x = y
  | [], [], _, _, _, h => ⟨rfl, h⟩
  | v :: xs, w :: ys, hr, _, _, h => by
    obtain ⟨hv, hxs⟩ := List.cons.inj hr
    simp only [quotedList, List.flatMap_cons, List.append_assoc] at h
    obtain ⟨rfl, hitems⟩ := quoted_append_inj v hv (List.append_cancel_left h)
    obtain ⟨rfl, hend⟩ := quotedItems_append_inj xs hxs hitems
    exact ⟨rfl, hend⟩

theorem quotedMembers_append_inj : (es : List Entry) → {fs : List Entry} →
    redactedMembers p es = redactedMembers p fs → ∀ {x y : Text},
      (quotedEntries es).flatMap ((", " : Text) ++ ·) ++ x =
        (quotedEntries fs).flatMap ((", " : Text) ++ ·) ++ y → es = fs ∧ x = y
  | [], [], _, _, _, h => ⟨rfl, h⟩
  | (k, v) :: es, (l, w) :: fs, hr, _, _, h => by
    obtain ⟨hf, hes⟩ := List.cons.inj hr
    obtain ⟨rfl, hv⟩ := Prod.mk.inj hf
    simp only [quotedEntries, List.flatMap_cons, List.append_assoc] at h
    have h := List.append_cancel_left (List.append_cancel_left (List.append_cancel_left h))
    obtain ⟨rfl, hmembers⟩ := append_inj_under (fun hr h => quoted_append_inj v hr h) hv h
    obtain ⟨rfl, hend⟩ := quotedMembers_append_inj es hes hmembers
    exact ⟨rfl, hend⟩
end

/-- Of values that are redacted alike, only the same are shown alike. -/
theorem quoted_eq_iff {v w : Value} (h : v.redacted p = w.redacted p) :
    v.quoted = w.quoted ↔ v = w := by
  refine ⟨fun hq => ?_, fun hv => by rw [hv]⟩
  exact (quoted_append_inj v h (congrArg (· ++ []) hq)).1

end Value

end ConnectionProfile
