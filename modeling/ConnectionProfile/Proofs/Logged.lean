import ConnectionProfile.Log

/-!
# Laws of logged computations

When a computation succeeds or fails, and what that says of its parts.
-/

namespace ConnectionProfile

theorem Except.mapError_ok {ε δ α : Type} {f : ε → δ} {x : Except ε α} {a : α} :
    x.mapError f = .ok a ↔ x = .ok a := by
  cases x with
  | error e => exact ⟨fun h => (nomatch h), fun h => (nomatch h)⟩
  | ok b =>
    constructor
    · intro h
      cases h
      rfl
    · intro h
      cases h
      rfl

theorem Except.mapError_error {ε δ α : Type} {f : ε → δ} {x : Except ε α} {d : δ} :
    x.mapError f = .error d ↔ ∃ e, x = .error e ∧ f e = d := by
  cases x with
  | error e =>
    constructor
    · intro h
      cases h
      exact ⟨e, rfl, rfl⟩
    · rintro ⟨_, ⟨⟩, rfl⟩
      rfl
  | ok a => exact ⟨fun h => (nomatch h), fun ⟨_, h, _⟩ => (nomatch h)⟩

theorem Except.map_mapError {ε δ α β : Type} (f : α → β) (g : ε → δ) (x : Except ε α) :
    (x.mapError g).map f = (x.map f).mapError g := by
  cases x <;> rfl

theorem Except.bind_ok {ε α β : Type} {x : Except ε α} {f : α → Except ε β} {b : β} :
    x >>= f = .ok b ↔ ∃ a, x = .ok a ∧ f a = .ok b := by
  cases x <;> simp [bind, Except.bind]

theorem Except.bind_error {ε α β : Type} {x : Except ε α} {f : α → Except ε β} {e : ε} :
    x >>= f = .error e ↔ x = .error e ∨ ∃ a, x = .ok a ∧ f a = .error e := by
  cases x <;> simp [bind, Except.bind]

/-- Computations that agree as far as the rest of the computation looks end alike. -/
theorem Except.bind_congr_map {ε α β γ δ : Type} {f : α → γ} {g : β → δ} {x y : Except ε α}
    {k l : α → Except ε β} (h : x.map f = y.map f)
    (hk : ∀ a b, x = .ok a → y = .ok b → f a = f b → (k a).map g = (l b).map g) :
    (x >>= k).map g = (y >>= l).map g := by
  cases x with
  | error e =>
    cases y with
    | error e' =>
      cases h
      rfl
    | ok b => cases h
  | ok a =>
    cases y with
    | error e => cases h
    | ok b => exact hk a b rfl rfl (Except.ok.inj h)

namespace Logged

variable {ε δ α β : Type}

@[simp] theorem pure_bind (a : α) (f : α → Logged ε β) : pure a >>= f = f a := rfl

theorem bind_assoc {γ : Type} (x : Logged ε α) (f : α → Logged ε β) (g : β → Logged ε γ) :
    x >>= f >>= g = x >>= fun a => f a >>= g := by
  obtain ⟨records, result⟩ := x
  cases result with
  | error e => rfl
  | ok a =>
    change Logged.bind (Logged.bind ⟨records, .ok a⟩ f) g =
      Logged.bind ⟨records, .ok a⟩ fun a => Logged.bind (f a) g
    cases hf : (f a).result with
    | error e => simp only [Logged.bind, hf]
    | ok b => simp only [Logged.bind, hf, List.append_assoc]

theorem bind_result_ok {x : Logged ε α} {f : α → Logged ε β} {b : β} :
    (x >>= f).result = .ok b ↔ ∃ a, x.result = .ok a ∧ (f a).result = .ok b := by
  constructor
  · intro h
    obtain ⟨a, ha, hf, -⟩ := bind_ok h
    exact ⟨a, ha, hf⟩
  · rintro ⟨a, ha, hf⟩
    change (Logged.bind x f).result = .ok b
    simp only [Logged.bind, ha, hf]

theorem bind_result_error {x : Logged ε α} {f : α → Logged ε β} {e : ε} :
    (x >>= f).result = .error e ↔
      x.result = .error e ∨ ∃ a, x.result = .ok a ∧ (f a).result = .error e := by
  change (Logged.bind x f).result = .error e ↔ _
  unfold Logged.bind
  cases x.result <;> simp

theorem mem_bind_of_mem {x : Logged ε α} {f : α → Logged ε β} {r : Record} (h : r ∈ x.records) :
    r ∈ (x >>= f).records := by
  change r ∈ (Logged.bind x f).records
  unfold Logged.bind
  cases x.result with
  | ok a => exact List.mem_append_left _ h
  | error e => exact h

theorem mem_bind_of_ok {x : Logged ε α} {f : α → Logged ε β} {a : α} {r : Record}
    (ha : x.result = .ok a) (h : r ∈ (f a).records) : r ∈ (x >>= f).records := by
  change r ∈ (Logged.bind x f).records
  simp only [Logged.bind, ha]
  exact List.mem_append_right _ h

theorem pure_result_ok {a b : α} : (pure a : Logged ε α).result = .ok b ↔ a = b := by
  simp

theorem log_result_ok {level : Level} {source : Source} {t : Text} {u : Unit} :
    (log level source t : Logged ε Unit).result = .ok u ↔ True :=
  ⟨fun _ => trivial, fun _ => rfl⟩

@[simp] theorem fail_result_ok {e : ε} {a : α} : (fail e : Logged ε α).result = .ok a ↔ False :=
  ⟨fun h => (nomatch h), False.elim⟩

theorem mapError_ok {f : ε → δ} {x : Logged ε α} {a : α} :
    (x.mapError f).result = .ok a ↔ x.result = .ok a := Except.mapError_ok

theorem mapError_error {f : ε → δ} {x : Logged ε α} {d : δ} :
    (x.mapError f).result = .error d ↔ ∃ e, x.result = .error e ∧ f e = d :=
  Except.mapError_error

theorem ofExcept_ok {x : Except ε α} {a : α} : (ofExcept x).result = .ok a ↔ x = .ok a := Iff.rfl

@[simp] theorem mapError_pure (f : ε → δ) (a : α) :
    (pure a : Logged ε α).mapError f = pure a := rfl

-- ---------------------------------------------------------------------------
-- Changed results
-- ---------------------------------------------------------------------------

/-- The computation with its result changed, if it has one. -/
protected def map (f : α → β) (x : Logged ε α) : Logged ε β := ⟨x.records, x.result.map f⟩

variable {γ : Type}

@[simp] theorem map_pure (f : α → β) (a : α) : (pure a : Logged ε α).map f = pure (f a) := rfl

theorem map_map (g : β → γ) (f : α → β) (x : Logged ε α) :
    (x.map f).map g = x.map fun a => g (f a) := by
  obtain ⟨records, result⟩ := x
  cases result <;> rfl

theorem map_mapError (f : α → β) (g : ε → δ) (x : Logged ε α) :
    (x.mapError g).map f = (x.map f).mapError g := by
  obtain ⟨records, result⟩ := x
  cases result <;> rfl

theorem map_bind (f : β → γ) (x : Logged ε α) (g : α → Logged ε β) :
    (x >>= g).map f = x >>= fun a => (g a).map f := by
  obtain ⟨records, result⟩ := x
  cases result <;> rfl

theorem bind_map (f : α → β) (x : Logged ε α) (g : β → Logged ε γ) :
    x.map f >>= g = x >>= fun a => g (f a) := by
  obtain ⟨records, result⟩ := x
  cases result <;> rfl

theorem map_ok {f : α → β} {x : Logged ε α} {b : β} :
    (x.map f).result = .ok b ↔ ∃ a, x.result = .ok a ∧ f a = b := by
  obtain ⟨records, result⟩ := x
  cases result <;> simp [Logged.map, Except.map]

theorem map_congr {f g : α → β} {x : Logged ε α} (h : ∀ a, x.result = .ok a → f a = g a) :
    x.map f = x.map g := by
  obtain ⟨records, result⟩ := x
  cases result with
  | error e => rfl
  | ok a => exact congrArg (fun b => (⟨records, .ok b⟩ : Logged ε β)) (h a rfl)

/-- Computations that are the same once their results are changed made the same records, and both
have results that are changed alike or both fail alike. -/
theorem map_eq_map {f : α → γ} {g : β → γ} {x : Logged ε α} {y : Logged ε β} :
    x.map f = y.map g ↔ x.records = y.records ∧
      ((∃ a b, x.result = .ok a ∧ y.result = .ok b ∧ f a = g b) ∨
        ∃ e, x.result = .error e ∧ y.result = .error e) := by
  obtain ⟨rs, result₁⟩ := x
  obtain ⟨ss, result₂⟩ := y
  rw [Logged.map, Logged.map, Logged.mk.injEq]
  cases result₁ <;> cases result₂ <;> simp [Except.map, eq_comm]

theorem bind_congr_map {f : α → γ} {x y : Logged ε α} {k l : α → Logged ε β}
    (h : x.map f = y.map f) (hk : ∀ a b, f a = f b → k a = l b) : x >>= k = y >>= l := by
  obtain ⟨records, x⟩ := x
  obtain ⟨_, y⟩ := y
  obtain ⟨rfl, ⟨a, b, rfl, rfl, hab⟩ | ⟨e, rfl, rfl⟩⟩ := map_eq_map.1 h
  · change Logged.bind _ k = Logged.bind _ l
    simp only [Logged.bind, hk a b hab]
  · rfl

end Logged

end ConnectionProfile
