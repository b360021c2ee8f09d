import ConnectionProfile.Proofs.Session.Effect

/-!
# Histories

The history of a session is the list of the steps that made it what it is, the last one first. What
every effect preserves, from one history to the next, holds after every run.
-/

namespace ConnectionProfile.Session

theorem getElem?_snoc {α : Type} (xs : List α) (x : α) (j : Nat) :
    (xs ++ [x])[j]? = if j = xs.length then some x else xs[j]? := by
  by_cases hj : j = xs.length
  · rw [if_pos hj, hj, List.getElem?_concat_length]
  · rw [if_neg hj]
    rcases Nat.lt_or_gt_of_ne hj with hlt | hgt
    · exact List.getElem?_append_left hlt
    · rw [List.getElem?_eq_none (by simp; omega), List.getElem?_eq_none (by omega)]

/-- How many profiles there are after a history: the first one, and one for each fork. -/
def size (past : List (Nat × Step)) : Nat := 1 + past.countP fun (_, step) => step matches .fork

theorem size_fork (k : Nat) (past : List (Nat × Step)) :
    size ((k, .fork) :: past) = size past + 1 := by
  simp only [size, List.countP_cons, if_true, Nat.add_assoc]

theorem size_cons {step : Step} (h : step ≠ .fork) (k : Nat) (past : List (Nat × Step)) :
    size ((k, step) :: past) = size past := by
  cases step with
  | fork => contradiction
  | _ => rfl

/-- The history that a run makes. -/
def history (s : Session) (steps : List (Nat × Step)) : List (Nat × Step) :=
  (s.effective steps).reverse

theorem run_reverse_cons (s : Session) (i : Nat) (step : Step) (past : List (Nat × Step)) :
    s.run ((i, step) :: past).reverse = ((s.run past.reverse).step i step).1 := by
  rw [List.reverse_cons, run, List.foldl_append]
  rfl

theorem mem_of_mem_effective {s : Session} {steps : List (Nat × Step)} {e : Nat × Step}
    (h : e ∈ s.effective steps) : e ∈ steps := by
  induction steps generalizing s with
  | nil => cases h
  | cons first rest ih =>
    unfold effective at h
    dsimp only at h
    split at h
    · obtain rfl | h := List.mem_cons.1 h
      · exact List.mem_cons_self ..
      · exact List.mem_cons_of_mem _ (ih h)
    · exact List.mem_cons_of_mem _ (ih h)

theorem mem_of_mem_history {s : Session} {steps : List (Nat × Step)} {e : Nat × Step}
    (h : e ∈ s.history steps) : e ∈ steps := mem_of_mem_effective (List.mem_reverse.1 h)

theorem reverse_effective_induction {P : List (Nat × Step) → Session → Prop}
    (hP : ∀ past s i step h, P past s → s.holders[i]? = some h →
      Effect s i h step (s.step i step).1 → P ((i, step) :: past) (s.step i step).1)
    {past : List (Nat × Step)} {s : Session} (h : P past s) (steps : List (Nat × Step)) :
    P ((s.effective steps).reverse ++ past) (s.run steps) := by
  induction steps generalizing past s with
  | nil => exact h
  | cons first rest ih =>
    obtain ⟨i, step⟩ := first
    change P _ ((s.step i step).1.run rest)
    cases hread : step.reads with
    | true => simpa only [effective, hread, fst_step_of_reads hread] using ih h
    | false =>
      cases hresult : (s.step i step).2.result with
      | error e => simpa only [effective, hread, hresult, fst_step_of_error hresult] using ih h
      | ok reply =>
        obtain ⟨holder, hi, he⟩ := effect_of_ok hresult
        simpa only [effective, hread, hresult, List.reverse_cons, List.append_assoc,
          List.singleton_append] using ih (hP past s i step holder h hi he)

/-- What holds at first and what every effect preserves holds after every run. -/
theorem history_induction {P : List (Nat × Step) → Session → Prop} {s : Session} (h : P [] s)
    (hP : ∀ past s i step h, P past s → s.holders[i]? = some h →
      Effect s i h step (s.step i step).1 → P ((i, step) :: past) (s.step i step).1)
    (steps : List (Nat × Step)) : P (s.history steps) (s.run steps) := by
  simpa only [history, List.append_nil] using reverse_effective_induction hP h steps

end ConnectionProfile.Session
