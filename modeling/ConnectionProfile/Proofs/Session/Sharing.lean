import ConnectionProfile.Proofs.Session.History

/-!
# Shared credentials

A fork shares the credentials object of the profile it is made from. `Linked` follows every profile
back to the one it was forked from, as long as neither has been given other credentials, and two
profiles share an object exactly when they are linked.
-/

namespace ConnectionProfile

/-- Whether a step gives its profile other credentials, or none. -/
def Step.replacesCredentials : Step → Bool
  | .setCredentials _ | .reload | .reloadText _ => true
  | _ => false

namespace Session

/-- The number of the credentials object that a profile holds. -/
def object? (s : Session) (i : Nat) : Option Nat := (s.holders[i]?).bind Holder.credentials

/-- Whether forks have linked two profiles, and neither has been given other credentials since. -/
def Linked : List (Nat × Step) → Nat → Nat → Prop
  | [], i, j => i = j
  | (k, .fork) :: past, i, j =>
    Linked past (if i = size past then k else i) (if j = size past then k else j)
  | (k, step) :: past, i, j =>
    i = j ∨ Linked past i j ∧ (step.replacesCredentials = true → i ≠ k ∧ j ≠ k)

section
variable {past : List (Nat × Step)} {step : Step} {i j k : Nat}

theorem linked_fork : Linked ((k, .fork) :: past) i j ↔
    Linked past (if i = size past then k else i) (if j = size past then k else j) := Iff.rfl

theorem linked_cons (h : step ≠ .fork) : Linked ((k, step) :: past) i j ↔
    i = j ∨ Linked past i j ∧ (step.replacesCredentials = true → i ≠ k ∧ j ≠ k) := by
  cases step with
  | fork => contradiction
  | _ => rfl

theorem linked_self (past : List (Nat × Step)) (i : Nat) : Linked past i i := by
  induction past generalizing i with
  | nil => rfl
  | cons first past ih =>
    obtain ⟨k, step⟩ := first
    by_cases h : step = .fork
    · subst h
      exact linked_fork.2 (ih _)
    · exact (linked_cons h).2 (.inl rfl)

end

-- ---------------------------------------------------------------------------
-- What effects do to objects
-- ---------------------------------------------------------------------------

section
variable {s t : Session} {i : Nat} {h : Holder} {step : Step}

theorem object?_setHolder (hi : s.holders[i]? = some h) (g : Holder) (j : Nat) :
    (s.setHolder i g).object? j = if j = i then g.credentials else s.object? j := by
  obtain ⟨hlt, -⟩ := List.getElem?_eq_some_iff.1 hi
  unfold object? setHolder
  by_cases hj : j = i
  · subst hj
    simp only [List.getElem?_set_self hlt, Option.bind_some, if_true]
  · simp only [List.getElem?_set_ne (Ne.symm hj), hj, if_false]

/-- Which objects the profiles hold stays as it is. -/
structure KeepsObjects (s t : Session) : Prop where
  holders : t.holders.length = s.holders.length
  credentials : t.credentials.length = s.credentials.length
  object? : ∀ j, t.object? j = s.object? j

theorem keepsObjects_setHolder (hi : s.holders[i]? = some h) {g : Holder}
    (hg : g.credentials = h.credentials) : KeepsObjects s (s.setHolder i g) where
  holders := List.length_set
  credentials := rfl
  object? j := by
    rw [object?_setHolder hi]
    split
    · subst j
      simp only [object?, hi, Option.bind_some, hg]
    · rfl

/-- Steps that only look at profiles or edit pins are no forks and leave credentials alone. -/
theorem keeps_of_reads (hr : step.reads = true) :
    step ≠ .fork ∧ step.replacesCredentials = false := by
  cases step with
  | fork | setCredentials | reload | reloadText => cases hr
  | _ => exact ⟨nofun, rfl⟩

theorem keeps_of_editedPins? {pins rest : List Pin} (hp : editedPins? pins step = some rest) :
    step ≠ .fork ∧ step.replacesCredentials = false := by
  cases step with
  | fork | setCredentials | reload | reloadText => cases hp
  | _ => exact ⟨nofun, rfl⟩

theorem Effect.keepsObjects (he : Effect s i h step t) (hi : s.holders[i]? = some h)
    (hf : step ≠ .fork) (hr : step.replacesCredentials = false) : KeepsObjects s t := by
  cases he with
  | server | identity => exact keepsObjects_setHolder hi rfl
  | field | table => exact ⟨rfl, List.length_set, fun _ => rfl⟩
  | reading | pins | source | hold | held | nothingHeld => exact ⟨rfl, rfl, fun _ => rfl⟩
  | credentials | reload | reloadText => cases hr
  | fork => contradiction

/-- Profile `i` lets go of its object. It holds a new one, or none. -/
structure ReplacesObject (s : Session) (i : Nat) (t : Session) : Prop where
  holders : t.holders.length = s.holders.length
  credentials : s.credentials.length ≤ t.credentials.length
  own : ∀ a, t.object? i = some a → a = s.credentials.length ∧ a < t.credentials.length
  other : ∀ j, j ≠ i → t.object? j = s.object? j

theorem replacesObject_of_append (hi : s.holders[i]? = some h) {g : Holder}
    {c : Option Credentials} (hh : t.holders = s.holders.set i g)
    (hc : t.credentials = s.credentials ++ c.toList)
    (hg : g.credentials = c.map fun _ => s.credentials.length) : ReplacesObject s i t := by
  have ho (j : Nat) : t.object? j = if j = i then g.credentials else s.object? j := by
    rw [← object?_setHolder hi g]
    simp only [object?, setHolder, hh]
  refine ⟨by rw [hh, List.length_set], by simp [hc], fun a ha => ?_, fun j hj => ?_⟩
  · rw [ho, if_pos rfl, hg] at ha
    obtain ⟨d, rfl, rfl⟩ := Option.map_eq_some_iff.1 ha
    exact ⟨rfl, by simp [hc]⟩
  · rw [ho, if_neg hj]

theorem Effect.replacesObject (he : Effect s i h step t) (hi : s.holders[i]? = some h)
    (hr : step.replacesCredentials = true) : ReplacesObject s i t := by
  cases he with
  | @credentials _ c =>
    cases c with
    | none => exact replacesObject_of_append (c := none) hi rfl (List.append_nil _).symm rfl
    | some c => exact replacesObject_of_append (c := some c) hi rfl rfl rfl
  | reload | reloadText => exact replacesObject_of_append hi rfl rfl rfl
  | reading hread => cases hr.symm.trans (keeps_of_reads hread).2
  | pins hp => cases hr.symm.trans (keeps_of_editedPins? hp).2
  | _ => cases hr

theorem Effect.of_fork (he : Effect s i h .fork t) : ∃ p, t = s.addSharing h.credentials p := by
  cases he with
  | fork => exact ⟨_, rfl⟩
  | reading hread => exact ((keeps_of_reads hread).1 rfl).elim
  | pins hp => exact ((keeps_of_editedPins? hp).1 rfl).elim

theorem object?_addSharing (hi : s.holders[i]? = some h) (p : Profile) (j : Nat) :
    (s.addSharing h.credentials p).object? j =
      s.object? (if j = s.holders.length then i else j) := by
  simp only [object?, addSharing, getElem?_snoc]
  split
  · rw [hi]
    rfl
  · rfl

end

-- ---------------------------------------------------------------------------
-- Sharing along a history
-- ---------------------------------------------------------------------------

/-- All objects are stored, and two profiles share one exactly when they are linked. -/
structure SharesAlong (past : List (Nat × Step)) (s : Session) : Prop where
  size : s.holders.length = size past
  stored : ∀ i a, s.object? i = some a → a < s.credentials.length
  linked : ∀ i j a, i < s.holders.length → j < s.holders.length → s.object? i = some a →
    (s.object? j = some a ↔ Linked past i j)

section
variable {past : List (Nat × Step)} {s t : Session} {i : Nat} {h : Holder} {step : Step}

theorem sharesAlong_start (p : Profile) (source : List Pin) : SharesAlong [] (start p source) where
  size := rfl
  stored i a ha := by
    cases i with
    | zero =>
      obtain ⟨c, hc, rfl⟩ := Option.map_eq_some_iff.1 ha
      change 0 < p.credentials.toList.length
      simp [hc]
    | succ i => cases ha
  linked i j a hi hj ha := by
    obtain rfl : i = 0 := Nat.lt_one_iff.1 hi
    obtain rfl : j = 0 := Nat.lt_one_iff.1 hj
    simpa only [ha, true_iff] using linked_self [] 0

theorem SharesAlong.of_keepsObjects (hs : SharesAlong past s) (hk : KeepsObjects s t)
    (hf : step ≠ .fork) (hr : step.replacesCredentials = false) :
    SharesAlong ((i, step) :: past) t where
  size := by rw [hk.holders, hs.size, size_cons hf]
  stored j a ha := by
    rw [hk.object?] at ha
    rw [hk.credentials]
    exact hs.stored j a ha
  linked j k a hj hk' ha := by
    rw [hk.holders] at hj hk'
    rw [hk.object?] at ha ⊢
    rw [hs.linked j k a hj hk' ha, linked_cons hf]
    constructor
    · exact fun hl => .inr ⟨hl, fun hc => by rw [hr] at hc; cases hc⟩
    · rintro (rfl | ⟨hl, -⟩)
      · exact linked_self past j
      · exact hl

theorem SharesAlong.of_replacesObject (hs : SharesAlong past s) (hk : ReplacesObject s i t)
    (hf : step ≠ .fork) (hr : step.replacesCredentials = true) :
    SharesAlong ((i, step) :: past) t where
  size := by rw [hk.holders, hs.size, size_cons hf]
  stored j a ha := by
    by_cases hj : j = i
    · subst hj
      exact (hk.own a ha).2
    · rw [hk.other j hj] at ha
      exact Nat.lt_of_lt_of_le (hs.stored j a ha) hk.credentials
  linked j k a hj hk' ha := by
    rw [hk.holders] at hj hk'
    simp only [linked_cons hf, hr, true_imp_iff]
    -- no other profile can hold the new object
    have hown {x : Nat} (hx : x ≠ i) (ho : t.object? i = some a) : t.object? x ≠ some a := by
      intro hxa
      rw [hk.other x hx] at hxa
      exact Nat.ne_of_lt (hs.stored x a hxa) (hk.own a ho).1
    by_cases hjk : j = k
    · subst hjk
      simp only [ha, true_or]
    simp only [hjk, false_or]
    by_cases hji : j = i
    · subst hji
      simpa only [ne_eq, not_true, false_and, and_false, iff_false] using hown (Ne.symm hjk) ha
    by_cases hki : k = i
    · subst hki
      simpa only [ne_eq, not_true, and_false, iff_false] using fun hka => hown hji hka ha
    · rw [hk.other j hji] at ha
      rw [hk.other k hki, hs.linked j k a hj hk' ha]
      simp only [hji, hki, ne_eq, not_false_eq_true, and_self, and_true]

theorem SharesAlong.of_fork (hs : SharesAlong past s) (hi : s.holders[i]? = some h)
    (p : Profile) : SharesAlong ((i, .fork) :: past) (s.addSharing h.credentials p) where
  size := by simp [addSharing, size_fork, hs.size]
  stored j a ha := by
    rw [object?_addSharing hi] at ha
    exact hs.stored _ a ha
  linked j k a hj hk ha := by
    simp only [addSharing, List.length_append, List.length_singleton] at hj hk
    have hlt : i < s.holders.length := (List.getElem?_eq_some_iff.1 hi).1
    rw [object?_addSharing hi] at ha ⊢
    rw [linked_fork, ← hs.size]
    refine hs.linked _ _ a ?_ ?_ ha
    · split <;> omega
    · split <;> omega

theorem SharesAlong.effect (hs : SharesAlong past s) (hi : s.holders[i]? = some h)
    (he : Effect s i h step t) : SharesAlong ((i, step) :: past) t := by
  by_cases hf : step = .fork
  · subst hf
    obtain ⟨p, rfl⟩ := he.of_fork
    exact hs.of_fork hi p
  · cases hr : step.replacesCredentials with
    | true => exact hs.of_replacesObject (he.replacesObject hi hr) hf hr
    | false => exact hs.of_keepsObjects (he.keepsObjects hi hf hr) hf hr

end

-- ---------------------------------------------------------------------------
-- What a change of credentials shows
-- ---------------------------------------------------------------------------

section
variable {s t : Session} {i j : Nat} {h : Holder}

end

theorem Origin.session_ok {o : Origin} {s : Session} :
    o.session.result = .ok s ↔ ∃ p, o.profile.result = .ok p ∧ start p o.source = s := by
  unfold Origin.session
  simp only [Logged.bind_result_ok, Logged.pure_result_ok]

end Session

end ConnectionProfile
