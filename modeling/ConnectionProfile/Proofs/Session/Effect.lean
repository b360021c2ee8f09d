import ConnectionProfile.Proofs.Logged
import ConnectionProfile.Proofs.Session.Atomic

/-!
# Steps that succeed

`Effect` says what a step makes of a session when it succeeds, and `effect_of_ok` that there is
nothing else.
-/

namespace ConnectionProfile

open ConnectionProfile.Action

namespace Session

/-- The pins after a step that edits them. All other steps leave them alone. -/
def editedPins? (pins : List Pin) : Step → Option (List Pin)
  | .appendPin fields => (checkPin fields).toOption.map fun p => pins ++ [p]
  | .insertPin index fields => (checkPin fields).toOption.map fun p => insertAt pins index p
  | .popPin index => (popAt? pins index).map Prod.snd
  | .removePin fields => (checkPin fields).toOption.bind (removeFirst? pins)
  | .clearPins => some []
  | .reversePins => some pins.reverse
  | _ => none

/-- What a step on profile `i`, which `h` holds, makes of a session. -/
inductive Effect (s : Session) (i : Nat) (h : Holder) : Step → Session → Prop
  | reading {step : Step} (hr : step.reads = true) : Effect s i h step s
  | server (v : Value) : Effect s i h (.setServer v) (s.setHolder i { h with server := v })
  | identity (v : Value) : Effect s i h (.setIdentity v) (s.setHolder i { h with identity := v })
  | credentials {fields : Option (List Entry)} {c : Option Credentials}
      (hc : Origin.checkCredentials fields = .ok c) :
      Effect s i h (.setCredentials fields) (s.replaceCredentials i h c)
  | field {name : AttributeName} {v : Value} {object : Nat} {c d : Credentials}
      (ho : h.credentials = some object) (hc : s.credentialsOf h = some c)
      (hd : setField c name v = .ok d) :
      Effect s i h (.setCredentialField name v) (s.setCredentials object d)
  | table {c d : Credentials} {object : Nat} (ho : h.credentials = some object)
      (hc : s.credentialsOf h = some c) :
      Effect s i h (.setCredentialTable d) (s.setCredentials object d)
  | pins {step : Step} {pins : List Pin} (hp : editedPins? (s.pinsOf h) step = some pins) :
      Effect s i h step (s.setPins h.pins pins)
  | source {fields : List Entry} {p : Pin} (hp : checkPin fields = .ok p) :
      Effect s i h (.appendToSource fields) (s.editPins s.source (· ++ [p]))
  | hold : Effect s i h .holdPins { s with held := some h.pins }
  | held {fields : List Entry} {p : Pin} {list : Nat} (hp : checkPin fields = .ok p)
      (hl : s.held = some list) :
      Effect s i h (.appendToHeld fields) (s.editPins list (· ++ [p]))
  | nothingHeld {fields : List Entry} (hl : s.held = none) : Effect s i h (.appendToHeld fields) s
  | reload {p : Profile} (hp : (Profile.decode (s.view h).toDocument).result = .ok p) :
      Effect s i h .reload (s.replace i p)
  | reloadText {options : List Entry} {t : Text} {p : Profile}
      (ht : encodeText (s.view h) options = .ok t)
      (hp : (Profile.ofText (.text t)).result = .ok p) :
      Effect s i h (.reloadText options) (s.replace i p)
  | fork {p : Profile} (hp : (copy (s.view h)).result = .ok p) :
      Effect s i h .fork (s.addSharing h.credentials p)

theorem encode_ok {p : Profile} {v : Value} :
    encode p = .ok v ↔ p.hasDocument = true ∧ p.toDocument = v := by
  unfold encode
  split <;> simp [*]

section
variable {s t : Session} {i : Nat} {h : Holder}

theorem yields_holder : (holder i).Yields s h t ↔ s.holders[i]? = some h ∧ s = t := by
  simp only [holder, yields_bind, yields_session]
  constructor
  · rintro ⟨_, _, ⟨rfl, rfl⟩, hm⟩
    cases hs : s.holders[i]? with
    | none => exact (yields_fail.1 (by simpa only [hs] using hm)).elim
    | some g =>
      rw [hs] at hm
      obtain ⟨rfl, rfl⟩ := yields_pure.1 hm
      exact ⟨rfl, rfl⟩
  · rintro ⟨hs, rfl⟩
    refine ⟨s, s, ⟨rfl, rfl⟩, ?_⟩
    simp only [hs, yields_pure, and_self]

theorem yields_credentialsObject {object : Nat} {c : Credentials} :
    (credentialsObject h).Yields s (object, c) t ↔
      h.credentials = some object ∧ s.credentialsOf h = some c ∧ s = t := by
  simp only [credentialsObject, yields_bind, yields_session]
  constructor
  · rintro ⟨_, _, ⟨rfl, rfl⟩, hm⟩
    split at hm
    · obtain ⟨⟨⟩, rfl⟩ := yields_pure.1 hm
      exact ⟨‹_›, ‹_›, rfl⟩
    · exact (yields_fail.1 hm).elim
  · rintro ⟨ho, hc, rfl⟩
    refine ⟨s, s, ⟨rfl, rfl⟩, ?_⟩
    simp only [ho, hc, yields_pure, and_self]

theorem effect_of_perform {step : Step} {reply : Reply}
    (hy : (perform i h step).Yields s reply t) : Effect s i h step t := by
  cases step with
  | setServer v =>
    obtain ⟨-, rfl⟩ := yields_change_pure.1 hy
    exact .server v
  | setIdentity v =>
    obtain ⟨-, rfl⟩ := yields_change_pure.1 hy
    exact .identity v
  | setCredentials fields =>
    obtain ⟨c, _, hx, hy⟩ := yields_bind.1 hy
    obtain ⟨hc, rfl⟩ := yields_ofExcept.1 hx
    obtain ⟨-, rfl⟩ := yields_change_pure.1 hy
    exact .credentials (Except.mapError_ok.1 hc)
  | setCredentialField name v =>
    obtain ⟨⟨object, c⟩, _, hx, hy⟩ := yields_bind.1 hy
    obtain ⟨ho, hc, rfl⟩ := yields_credentialsObject.1 hx
    obtain ⟨d, _, hx, hy⟩ := yields_bind.1 hy
    obtain ⟨hd, rfl⟩ := yields_ofExcept.1 hx
    obtain ⟨-, rfl⟩ := yields_change_pure.1 hy
    exact .field ho hc hd
  | setCredentialTable d =>
    obtain ⟨⟨object, c⟩, _, hx, hy⟩ := yields_bind.1 hy
    obtain ⟨ho, hc, rfl⟩ := yields_credentialsObject.1 hx
    obtain ⟨-, rfl⟩ := yields_change_pure.1 hy
    exact .table ho hc
  | appendPin fields =>
    obtain ⟨p, _, hx, hy⟩ := yields_bind.1 hy
    obtain ⟨hp, rfl⟩ := yields_ofExcept.1 hx
    obtain ⟨-, rfl⟩ := yields_change_pure.1 hy
    exact .pins (by simp only [editedPins?, hp]; rfl)
  | insertPin index fields =>
    obtain ⟨p, _, hx, hy⟩ := yields_bind.1 hy
    obtain ⟨hp, rfl⟩ := yields_ofExcept.1 hx
    split at hy
    · obtain ⟨-, rfl⟩ := yields_change_pure.1 hy
      exact .pins (by simp only [editedPins?, hp]; rfl)
    · exact (yields_fail.1 hy).elim
  | popPin index =>
    obtain ⟨_, _, hs, hy⟩ := yields_bind.1 hy
    obtain ⟨rfl, rfl⟩ := yields_session.1 hs
    split at hy
    · rename_i hp
      obtain ⟨-, rfl⟩ := yields_change_pure.1 hy
      exact .pins (by simp only [editedPins?, hp]; rfl)
    · exact (yields_fail.1 hy).elim
  | removePin fields =>
    obtain ⟨p, _, hx, hy⟩ := yields_bind.1 hy
    obtain ⟨hp, rfl⟩ := yields_ofExcept.1 hx
    obtain ⟨_, _, hs, hy⟩ := yields_bind.1 hy
    obtain ⟨rfl, rfl⟩ := yields_session.1 hs
    split at hy
    · rename_i hr
      obtain ⟨-, rfl⟩ := yields_change_pure.1 hy
      exact .pins (by simp only [editedPins?, hp]; exact hr)
    · exact (yields_fail.1 hy).elim
  | clearPins =>
    obtain ⟨-, rfl⟩ := yields_change_pure.1 hy
    exact .pins rfl
  | reversePins =>
    obtain ⟨-, rfl⟩ := yields_change_pure.1 hy
    exact .pins rfl
  | appendToSource fields =>
    obtain ⟨p, _, hx, hy⟩ := yields_bind.1 hy
    obtain ⟨hp, rfl⟩ := yields_ofExcept.1 hx
    obtain ⟨-, rfl⟩ := yields_change_pure.1 hy
    exact .source hp
  | holdPins =>
    obtain ⟨-, rfl⟩ := yields_change_pure.1 hy
    exact .hold
  | appendToHeld fields =>
    obtain ⟨p, _, hx, hy⟩ := yields_bind.1 hy
    obtain ⟨hp, rfl⟩ := yields_ofExcept.1 hx
    obtain ⟨_, _, hs, hy⟩ := yields_bind.1 hy
    obtain ⟨rfl, rfl⟩ := yields_session.1 hs
    split at hy
    · obtain ⟨-, rfl⟩ := yields_change_pure.1 hy
      exact .held hp ‹_›
    · obtain ⟨-, rfl⟩ := yields_pure.1 hy
      exact .nothingHeld ‹_›
  | reload =>
    obtain ⟨_, _, hs, hy⟩ := yields_bind.1 hy
    obtain ⟨rfl, rfl⟩ := yields_session.1 hs
    obtain ⟨v, _, hx, hy⟩ := yields_bind.1 hy
    obtain ⟨hv, rfl⟩ := yields_ofExcept.1 hx
    obtain ⟨-, rfl⟩ := encode_ok.1 hv
    obtain ⟨p, _, hx, hy⟩ := yields_bind.1 hy
    obtain ⟨hp, rfl⟩ := yields_lift.1 hx
    obtain ⟨-, rfl⟩ := yields_change_pure.1 hy
    exact .reload (Logged.mapError_ok.1 hp)
  | reloadText options =>
    obtain ⟨_, _, hs, hy⟩ := yields_bind.1 hy
    obtain ⟨rfl, rfl⟩ := yields_session.1 hs
    obtain ⟨text, _, hx, hy⟩ := yields_bind.1 hy
    obtain ⟨ht, rfl⟩ := yields_ofExcept.1 hx
    obtain ⟨p, _, hx, hy⟩ := yields_bind.1 hy
    obtain ⟨hp, rfl⟩ := yields_lift.1 hx
    obtain ⟨-, rfl⟩ := yields_change_pure.1 hy
    exact .reloadText ht (Logged.mapError_ok.1 hp)
  | fork =>
    obtain ⟨_, _, hs, hy⟩ := yields_bind.1 hy
    obtain ⟨rfl, rfl⟩ := yields_session.1 hs
    obtain ⟨p, _, hx, hy⟩ := yields_bind.1 hy
    obtain ⟨hp, rfl⟩ := yields_lift.1 hx
    obtain ⟨-, rfl⟩ := yields_change_pure.1 hy
    exact .fork (Logged.mapError_ok.1 hp)
  | _ =>
    obtain rfl : s = t := ((isReading_perform rfl i h) s).symm.trans hy.2
    exact .reading rfl

/-- A step that succeeds is one of the effects, on a profile that is there. -/
theorem effect_of_ok {step : Step} {reply : Reply}
    (hr : (s.step i step).2.result = .ok reply) :
    ∃ h, s.holders[i]? = some h ∧ Effect s i h step (s.step i step).1 := by
  obtain ⟨h, _, hx, hy⟩ := yields_bind.1
    (show (do perform i (← holder i) step : Action StepError Reply).Yields s reply _ from ⟨hr, rfl⟩)
  obtain ⟨hh, rfl⟩ := yields_holder.1 hx
  exact ⟨h, hh, effect_of_perform hy⟩

end

end Session

end ConnectionProfile
