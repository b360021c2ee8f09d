import ConnectionProfile.Proofs.Logged
import Mathlib.Logic.Basic

/-!
# Checks in a row

A check is the set of the errors that it fails with, and it passes when there are none. A computation
that makes checks one after the other succeeds if and only if all of them pass, and otherwise it fails
with the error of the first that does not.
-/

namespace ConnectionProfile

abbrev Check (ε : Type) := ε → Prop

namespace Check

variable {ε δ α : Type}

def Passes (c : Check ε) : Prop := ∀ e, ¬c e

/-- The check that asks for `p`. -/
def ask (p : Prop) (error : ε) : Check ε := fun e => ¬p ∧ error = e

/-- The check that a computation succeeds. -/
def run (x : Logged ε α) : Check ε := fun e => x.result = .error e

/-- The check that is made only if `p`. -/
def onlyIf (p : Prop) (c : Check ε) : Check ε := fun e => p ∧ c e

/-- The check with other errors. -/
def under (f : ε → δ) (c : Check ε) : Check δ := fun d => ∃ e, c e ∧ f e = d

/-- The first of the checks that does not pass fails with the error. -/
inductive FirstFailure : List (Check ε) → ε → Prop
  | here {c : Check ε} {cs : List (Check ε)} {e : ε} (h : c e) : FirstFailure (c :: cs) e
  | later {c : Check ε} {cs : List (Check ε)} {e : ε} (hc : c.Passes) (h : FirstFailure cs e) :
    FirstFailure (c :: cs) e

variable {c : Check ε} {cs ds : List (Check ε)} {e : ε}

@[simp] theorem passes_ask {p : Prop} : (ask p e).Passes ↔ p := by
  simp [Passes, ask]

@[simp] theorem passes_run {x : Logged ε α} : (run x).Passes ↔ ∃ a, x.result = .ok a := by
  unfold Passes run
  cases x.result <;> simp

@[simp] theorem passes_onlyIf {p : Prop} : (onlyIf p c).Passes ↔ (p → c.Passes) :=
  ⟨fun h hp e hc => h e ⟨hp, hc⟩, fun h e ⟨hp, hc⟩ => h hp e hc⟩

@[simp] theorem passes_under {f : ε → δ} : (under f c).Passes ↔ c.Passes :=
  ⟨fun h e hc => h (f e) ⟨e, hc, rfl⟩, fun h _ ⟨e, hc, _⟩ => h e hc⟩

@[simp] theorem firstFailure_nil : FirstFailure [] e ↔ False :=
  ⟨fun h => (nomatch h), False.elim⟩

@[simp] theorem firstFailure_cons :
    FirstFailure (c :: cs) e ↔ c e ∨ c.Passes ∧ FirstFailure cs e := by
  constructor
  · rintro (h | ⟨hc, h⟩)
    · exact .inl h
    · exact .inr ⟨hc, h⟩
  · rintro (h | ⟨hc, h⟩)
    · exact .here h
    · exact .later hc h

theorem firstFailure_singleton : FirstFailure [c] e ↔ c e := by
  simp

theorem firstFailure_append :
    FirstFailure (cs ++ ds) e ↔
      FirstFailure cs e ∨ (∀ c ∈ cs, c.Passes) ∧ FirstFailure ds e := by
  induction cs with
  | nil => simp
  | cons c cs ih => simp [ih, and_or_left, or_assoc, and_assoc]

theorem firstFailure_under {f : ε → δ} {d : δ} :
    FirstFailure (cs.map (under f)) d ↔ ∃ e, FirstFailure cs e ∧ f e = d := by
  induction cs with
  | nil => simp
  | cons c cs ih =>
    simp only [List.map_cons, firstFailure_cons, passes_under, ih, under, or_and_right,
      exists_or, and_assoc, exists_and_left]

/-- The first of the things asked for that does not hold. -/
theorem firstFailure_map_ask {ι : Type} {p : ι → Prop} {error : ι → ε} {is : List ι} :
    FirstFailure (is.map fun i => ask (p i) (error i)) e ↔
      ∃ before i after, is = before ++ i :: after ∧ (∀ j ∈ before, p j) ∧ ¬p i ∧ error i = e := by
  induction is with
  | nil => simp
  | cons i is ih =>
    rw [List.map_cons, firstFailure_cons, ih, passes_ask]
    constructor
    · rintro (⟨hi, he⟩ | ⟨hi, before, j, after, rfl, hb, hj⟩)
      · exact ⟨[], i, is, rfl, by simp, hi, he⟩
      · exact ⟨i :: before, j, after, rfl, List.forall_mem_cons.2 ⟨hi, hb⟩, hj⟩
    · rintro ⟨_ | ⟨k, before⟩, j, after, h, hb, hj⟩
      · cases h
        exact .inl hj
      · cases h
        obtain ⟨hi, hb⟩ := List.forall_mem_cons.1 hb
        exact .inr ⟨hi, before, j, after, rfl, hb, hj⟩

theorem exists_firstFailure : (∃ e, FirstFailure cs e) ↔ ¬∀ c ∈ cs, c.Passes := by
  induction cs with
  | nil => simp
  | cons c cs ih =>
    by_cases hc : c.Passes
    · have hn : ∀ e, ¬c e := hc
      simp [hc, hn, ih]
    · obtain ⟨e, he⟩ := not_forall_not.1 hc
      simp only [firstFailure_cons, List.forall_mem_cons, hc, false_and, or_false, not_false_eq_true,
        iff_true]
      exact ⟨e, he⟩

end Check

namespace Logged

variable {ε δ α β : Type} {x : Logged ε α} {f : α → Logged ε β} {cs ds : List (Check ε)}

/-- The computation makes the checks, one after the other, and nothing else can go wrong. -/
def Makes (x : Logged ε α) (cs : List (Check ε)) : Prop :=
  ∀ e, x.result = .error e ↔ Check.FirstFailure cs e

theorem Makes.ok (h : x.Makes cs) : (∃ a, x.result = .ok a) ↔ ∀ c ∈ cs, c.Passes := by
  rw [← not_iff_not, ← Check.exists_firstFailure]
  simp only [← h _]
  cases x.result <;> simp

theorem makes_pure (a : α) : (pure a : Logged ε α).Makes [] := by
  intro e
  simp

theorem makes_run (x : Logged ε α) : x.Makes [.run x] := by
  intro e
  simp [Check.run]

/-- A computation with one error asks for what it needs to succeed. -/
theorem makes_ask {p : Prop} {error : ε} (hp : (∃ a, x.result = .ok a) ↔ p)
    (he : ∀ e, x.result = .error e → e = error) : x.Makes [.ask p error] := by
  intro e
  rw [Check.firstFailure_singleton, Check.ask, ← hp]
  constructor
  · intro h
    refine ⟨?_, (he e h).symm⟩
    rintro ⟨a, ha⟩
    cases h.symm.trans ha
  · rintro ⟨h, rfl⟩
    cases hr : x.result with
    | ok a => exact absurd ⟨a, hr⟩ h
    | error e => rw [he e hr]

theorem Makes.mapError (h : x.Makes cs) (g : ε → δ) :
    (x.mapError g).Makes (cs.map (Check.under g)) := by
  intro d
  rw [mapError_error, Check.firstFailure_under]
  exact exists_congr fun e => and_congr_left fun _ => h e

/-- The checks of the rest may depend on what came before only as far as that has succeeded. -/
theorem Makes.bind (hx : x.Makes cs) (hf : ∀ a, x.result = .ok a → (f a).Makes ds) :
    (x >>= f).Makes (cs ++ ds) := by
  intro e
  rw [bind_result_error, Check.firstFailure_append, ← hx.ok, ← hx e]
  refine or_congr_right ⟨?_, ?_⟩
  · rintro ⟨a, ha, h⟩
    exact ⟨⟨a, ha⟩, (hf a ha e).1 h⟩
  · rintro ⟨⟨a, ha⟩, h⟩
    exact ⟨a, ha, (hf a ha e).2 h⟩

/-- What cannot fail adds no check. -/
theorem Makes.bind_pure (hx : x.Makes cs) (g : α → β) :
    (x >>= fun a => pure (g a)).Makes cs := by
  rw [← List.append_nil cs]
  exact hx.bind fun a _ => makes_pure (g a)

end Logged

end ConnectionProfile
