import ConnectionProfile.Proofs.Logged
import ConnectionProfile.Session.Action

/-!
# Laws of actions

What an action does when it succeeds, and which actions change nothing. An action that only looks at
the session may fail at any point; one that looks first and then makes a single change fails before
it has changed anything.
-/

namespace ConnectionProfile.Action

variable {ε α β : Type} {s t u : Session}

-- ---------------------------------------------------------------------------
-- Success
-- ---------------------------------------------------------------------------

/-- The action succeeds with an answer and leaves a session behind. -/
def Yields (x : Action ε α) (s : Session) (a : α) (t : Session) : Prop :=
  (x s).2.result = .ok a ∧ (x s).1 = t

theorem yields_bind {x : Action ε α} {f : α → Action ε β} {b : β} :
    (x >>= f).Yields s b u ↔ ∃ a t, x.Yields s a t ∧ (f a).Yields t b u := by
  change (Action.bind x f).Yields s b u ↔ _
  unfold Yields Action.bind
  rcases x s with ⟨t, records, _ | a⟩
  · simp
  · constructor
    · exact fun h => ⟨a, t, ⟨rfl, rfl⟩, h⟩
    · rintro ⟨_, _, ⟨⟨⟩, rfl⟩, h⟩
      exact h

theorem yields_pure {a b : α} : (pure a : Action ε α).Yields s b t ↔ a = b ∧ s = t := by
  change (Action.pure a).Yields s b t ↔ _
  simp [Yields, Action.pure]

theorem yields_session {a : Session} :
    (session : Action ε Session).Yields s a t ↔ s = a ∧ s = t := by
  simp [Yields, session]

theorem yields_change {f : Session → Session} {a : Unit} :
    (change f : Action ε Unit).Yields s a t ↔ f s = t := by
  simp [Yields, change]

theorem yields_change_pure {f : Session → Session} {a b : α} :
    (change f >>= fun _ => pure a : Action ε α).Yields s b t ↔ a = b ∧ f s = t := by
  simp only [yields_bind, yields_change, yields_pure]
  exact ⟨fun ⟨_, _, hs, hab, ht⟩ => ⟨hab, hs.trans ht⟩, fun ⟨hab, ht⟩ => ⟨(), _, rfl, hab, ht⟩⟩

theorem yields_lift {x : Logged ε α} {a : α} :
    (lift x).Yields s a t ↔ x.result = .ok a ∧ s = t := Iff.rfl

theorem yields_ofExcept {x : Except ε α} {a : α} :
    (ofExcept x).Yields s a t ↔ x = .ok a ∧ s = t := Iff.rfl

theorem yields_fail {e : ε} {a : α} : (fail e : Action ε α).Yields s a t ↔ False :=
  ⟨fun h => (nomatch h.1), False.elim⟩

-- ---------------------------------------------------------------------------
-- Actions that change nothing
-- ---------------------------------------------------------------------------

/-- The action leaves every session as it was. -/
def IsReading (x : Action ε α) : Prop := ∀ s, (x s).1 = s

/-- When the action fails, it leaves the session as it was. -/
def IsAtomic (x : Action ε α) : Prop := ∀ s e, (x s).2.result = .error e → (x s).1 = s

theorem isReading_pure (a : α) : (pure a : Action ε α).IsReading := fun _ => rfl

theorem isReading_session : (session : Action ε Session).IsReading := fun _ => rfl

theorem isReading_lift (x : Logged ε α) : (lift x).IsReading := fun _ => rfl

theorem isReading_ofExcept (x : Except ε α) : (ofExcept x).IsReading := fun _ => rfl

theorem isReading_fail (e : ε) : (fail e : Action ε α).IsReading := fun _ => rfl

section
variable {x : Action ε α} {f : α → Action ε β}

theorem IsReading.isAtomic (h : x.IsReading) : x.IsAtomic := fun s _ _ => h s

theorem IsReading.bind (hx : x.IsReading) (hf : ∀ a, (f a).IsReading) : (x >>= f).IsReading := by
  intro s
  change (Action.bind x f s).1 = s
  have hs := hx s
  unfold Action.bind
  generalize x s = out at hs
  obtain ⟨t, records, result⟩ := out
  obtain rfl : t = s := hs
  cases result with
  | ok a => exact hf a t
  | error e => rfl

/-- What fails after reading has changed nothing before. -/
theorem IsReading.bind_isAtomic (hx : x.IsReading) (hf : ∀ a, (f a).IsAtomic) :
    (x >>= f).IsAtomic := by
  intro s e h
  change (Action.bind x f s).2.result = .error e at h
  change (Action.bind x f s).1 = s
  have hs := hx s
  unfold Action.bind at h ⊢
  generalize x s = out at hs h
  obtain ⟨t, records, result⟩ := out
  obtain rfl : t = s := hs
  cases result with
  | ok a => exact hf a t e h
  | error e => rfl

theorem isAtomic_change_pure (g : Session → Session) (b : β) :
    (change g >>= fun _ => pure b : Action ε β).IsAtomic := by
  intro s e h
  cases h

end

-- ---------------------------------------------------------------------------
-- Changes that wait for a computation
-- ---------------------------------------------------------------------------

theorem session_bind (f : Session → Action ε α) (s : Session) : (session >>= f) s = f s s := rfl

theorem ofExcept_ok_bind (a : α) (f : α → Action ε β) (s : Session) :
    (ofExcept (.ok a) >>= f) s = f a s := rfl

/-- The session with the change that a computation asks for, if it succeeds. -/
def changed (x : Logged ε α) (f : α → Session → Session) (s : Session) : Session :=
  match x.result with
  | .ok a => f a s
  | .error _ => s

theorem lift_change_pure (x : Logged ε α) (f : α → Session → Session) (b : β) (s : Session) :
    (do let a ← lift x; change (f a); return b : Action ε β) s =
      (changed x f s, x.map fun _ => b) := by
  obtain ⟨records, result⟩ := x
  change Action.bind (lift _) _ s = _
  cases result with
  | error e => rfl
  | ok a =>
    have hr : records ++ ([] ++ []) = records := by simp
    exact congrArg (fun rs => (f a s, (⟨rs, .ok b⟩ : Logged ε β))) hr

end ConnectionProfile.Action
