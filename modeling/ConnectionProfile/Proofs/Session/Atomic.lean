import ConnectionProfile.Proofs.Session.Action
import ConnectionProfile.Session.Step

/-!
# Steps that fail

Every step reads first, and then it makes one change, which cannot fail. So a step that fails leaves
the session as it was, and a run leaves behind what its successful steps do.
-/

namespace ConnectionProfile

open ConnectionProfile.Action

/-- Whether a step only looks at the profiles. -/
def Step.reads : Step → Bool
  | .countPin _ | .shouldPin | .fingerprints | .changeFingerprints | .quote | .encode
  | .encodeText _ | .isSame _ => true
  | _ => false

namespace Session

theorem isReading_holder (i : Nat) : (holder i).IsReading := by
  refine isReading_session.bind fun s => ?_
  cases s.holders[i]? with
  | none => exact isReading_fail _
  | some h => exact isReading_pure h

theorem isReading_credentialsObject (h : Holder) : (credentialsObject h).IsReading := by
  refine isReading_session.bind fun s => ?_
  split
  · exact isReading_pure _
  · exact isReading_fail _

theorem isReading_perform {step : Step} (hr : step.reads = true) (i : Nat) (h : Holder) :
    (perform i h step).IsReading := by
  cases step with
  | countPin fields =>
    exact (isReading_ofExcept _).bind fun p => isReading_session.bind fun s => isReading_pure _
  | shouldPin => exact isReading_session.bind fun s => isReading_pure _
  | fingerprints | changeFingerprints => exact isReading_pure _
  | quote | encode | encodeText =>
    exact isReading_session.bind fun s => (isReading_ofExcept _).bind fun _ => isReading_pure _
  | isSame other =>
    refine isReading_session.bind fun s => ?_
    split
    · exact isReading_pure _
    · exact isReading_fail _
  | _ => cases hr

theorem isAtomic_perform (i : Nat) (h : Holder) (step : Step) : (perform i h step).IsAtomic := by
  cases step with
  | setServer | setIdentity | clearPins | reversePins | holdPins =>
    exact isAtomic_change_pure _ _
  | setCredentials | appendPin | appendToSource =>
    exact (isReading_ofExcept _).bind_isAtomic fun _ => isAtomic_change_pure _ _
  | setCredentialField name v =>
    exact (isReading_credentialsObject h).bind_isAtomic fun _ =>
      (isReading_ofExcept _).bind_isAtomic fun _ => isAtomic_change_pure _ _
  | setCredentialTable c =>
    exact (isReading_credentialsObject h).bind_isAtomic fun _ => isAtomic_change_pure _ _
  | insertPin index fields =>
    refine (isReading_ofExcept _).bind_isAtomic fun p => ?_
    split
    · exact isAtomic_change_pure _ _
    · exact (isReading_fail _).isAtomic
  | popPin index =>
    refine isReading_session.bind_isAtomic fun s => ?_
    split
    · exact isAtomic_change_pure _ _
    · exact (isReading_fail _).isAtomic
  | removePin fields =>
    refine (isReading_ofExcept _).bind_isAtomic fun p => isReading_session.bind_isAtomic fun s => ?_
    split
    · exact isAtomic_change_pure _ _
    · exact (isReading_fail _).isAtomic
  | appendToHeld fields =>
    refine (isReading_ofExcept _).bind_isAtomic fun p => isReading_session.bind_isAtomic fun s => ?_
    split
    · exact isAtomic_change_pure _ _
    · exact (isReading_pure _).isAtomic
  | fork =>
    exact isReading_session.bind_isAtomic fun s => (isReading_lift _).bind_isAtomic fun _ =>
      isAtomic_change_pure _ _
  | reload | reloadText =>
    exact isReading_session.bind_isAtomic fun s => (isReading_ofExcept _).bind_isAtomic fun _ =>
      (isReading_lift _).bind_isAtomic fun _ => isAtomic_change_pure _ _
  | _ => exact (isReading_perform rfl i h).isAtomic

/-- The session after some steps, each on the profile with a number. -/
def run (s : Session) (steps : List (Nat × Step)) : Session :=
  steps.foldl (fun s (i, step) => (s.step i step).1) s

/-- The steps of a run that succeed and do more than look. -/
def effective (s : Session) : List (Nat × Step) → List (Nat × Step)
  | [] => []
  | (i, step) :: rest =>
    let out := s.step i step
    match step.reads, out.2.result with
    | false, .ok _ => (i, step) :: out.1.effective rest
    | _, _ => out.1.effective rest

variable {s : Session} {i : Nat} {step : Step}

theorem fst_step_of_error {e : StepError} (h : (s.step i step).2.result = .error e) :
    (s.step i step).1 = s :=
  (isReading_holder i).bind_isAtomic (fun h => isAtomic_perform i h step) s e h

theorem fst_step_of_reads (h : step.reads = true) : (s.step i step).1 = s :=
  (isReading_holder i).bind (isReading_perform h i) s

end Session

end ConnectionProfile
