import ConnectionProfile.Proofs.Profile.Hidden
import ConnectionProfile.Proofs.Session.Action

/-!
# Sessions that differ in tokens

Two sessions that differ in the texts of tokens go the same way: their steps succeed alike or fail
alike, with the same records, and leave sessions behind that differ in tokens again. So no run tells
what a token is, other than by writing a document, or in the error of credentials that lack a required
argument: that shows all arguments.
-/

namespace ConnectionProfile

-- ---------------------------------------------------------------------------
-- Hidden tokens
-- ---------------------------------------------------------------------------

namespace Session

/-- The session with the tokens of all its credentials hidden. -/
def hidden (s : Session) : Session :=
  { s with credentials := s.credentials.map Credentials.hidden }

section
variable {s t : Session}

theorem credentialsOf_hidden (s : Session) (h : Holder) :
    s.hidden.credentialsOf h = (s.credentialsOf h).map Credentials.hidden := by
  cases hc : h.credentials with
  | none => simp only [credentialsOf, hc, Option.bind_none, Option.map_none]
  | some object => simp only [credentialsOf, hc, hidden, Option.bind_some, List.getElem?_map]

theorem view_hidden (s : Session) (h : Holder) : s.hidden.view h = (s.view h).hidden := by
  rw [view, credentialsOf_hidden]
  rfl

theorem holders_congr (hst : s.hidden = t.hidden) : s.holders = t.holders := by
  change s.hidden.holders = t.hidden.holders
  rw [hst]

theorem held_congr (hst : s.hidden = t.hidden) : s.held = t.held := by
  change s.hidden.held = t.hidden.held
  rw [hst]

theorem pinsOf_congr (hst : s.hidden = t.hidden) (h : Holder) : s.pinsOf h = t.pinsOf h := by
  change s.hidden.pinsOf h = t.hidden.pinsOf h
  rw [hst]

theorem credentialsOf_congr (hst : s.hidden = t.hidden) (h : Holder) :
    (s.credentialsOf h).map Credentials.hidden = (t.credentialsOf h).map Credentials.hidden := by
  rw [← credentialsOf_hidden, ← credentialsOf_hidden, hst]

theorem view_congr (hst : s.hidden = t.hidden) (h : Holder) :
    (s.view h).hidden = (t.view h).hidden := by
  rw [← view_hidden, ← view_hidden, hst]

theorem profile?_hidden (s : Session) (i : Nat) :
    s.hidden.profile? i = (s.profile? i).map Profile.hidden := by
  rw [profile?, profile?, Option.map_map]
  exact Option.map_congr fun h _ => s.view_hidden h

theorem profiles_hidden (s : Session) : s.hidden.profiles = s.profiles.map Profile.hidden := by
  rw [profiles, profiles, List.map_map]
  exact List.map_congr_left fun h _ => s.view_hidden h

theorem hidden_setCredentials (s : Session) (object : Nat) (c : Credentials) :
    (s.setCredentials object c).hidden = s.hidden.setCredentials object c.hidden := by
  simp only [setCredentials, hidden, List.map_set]

theorem hidden_replaceCredentials (s : Session) (i : Nat) (h : Holder) (c : Option Credentials) :
    (s.replaceCredentials i h c).hidden =
      s.hidden.replaceCredentials i h (c.map Credentials.hidden) := by
  cases c with
  | none => rfl
  | some c =>
    simp only [replaceCredentials, setHolder, hidden, Option.map_some, List.map_append,
      List.map_cons, List.map_nil, List.length_map]

theorem hidden_replace (s : Session) (i : Nat) (p : Profile) :
    (s.replace i p).hidden = s.hidden.replace i p.hidden := by
  obtain ⟨server, identity, c, pins⟩ := p
  cases c <;>
    simp [replace, allocate, setHolder, hidden, Profile.hidden, Profile.mapTokens,
      Credentials.hidden]

theorem hidden_addSharing (s : Session) (object : Option Nat) (p : Profile) :
    (s.addSharing object p).hidden = s.hidden.addSharing object p.hidden := rfl

theorem hidden_start (p : Profile) (source : List Pin) :
    (start p source).hidden = start p.hidden source := by
  obtain ⟨server, identity, c, pins⟩ := p
  cases c <;> rfl

end

end Session

-- ---------------------------------------------------------------------------
-- Actions
-- ---------------------------------------------------------------------------

namespace Action

variable {ε α β γ δ : Type}

/-- On sessions that differ in tokens, the actions leave sessions behind that differ in tokens, make
the same records, and fail alike or have answers that `f` maps to the same. -/
def Alike (f : α → γ) (x y : Action ε α) : Prop :=
  ∀ s t, s.hidden = t.hidden → (x s).1.hidden = (y t).1.hidden ∧ (x s).2.map f = (y t).2.map f

section
variable {f : α → γ} {g : β → δ} {x y : Action ε α} {a b : α}

theorem alike_pure (h : f a = f b) : (pure a : Action ε α).Alike f (pure b) :=
  fun _ _ hst => ⟨hst, congrArg (pure : γ → Logged ε γ) h⟩

theorem alike_session : (session : Action ε Session).Alike Session.hidden session :=
  fun _ _ hst => ⟨hst, congrArg (pure : Session → Logged ε Session) hst⟩

theorem alike_lift {x y : Logged ε α} (h : x.map f = y.map f) : (lift x).Alike f (lift y) :=
  fun _ _ hst => ⟨hst, h⟩

theorem alike_ofExcept {x y : Except ε α} (h : x.map f = y.map f) :
    (ofExcept x).Alike f (ofExcept y) := alike_lift (congrArg Logged.ofExcept h)

theorem alike_fail (e : ε) : (fail e : Action ε α).Alike f (fail e) := alike_lift rfl

theorem Alike.bind {k l : α → Action ε β} (hx : x.Alike f y)
    (hk : ∀ a b, f a = f b → (k a).Alike g (l b)) : (x >>= k).Alike g (y >>= l) := by
  intro s t hst
  obtain ⟨hs, hr⟩ := hx s t hst
  change (Action.bind x k s).1.hidden = (Action.bind y l t).1.hidden ∧
    (Action.bind x k s).2.map g = (Action.bind y l t).2.map g
  unfold Action.bind
  generalize x s = out at hs hr
  generalize y t = out' at hs hr
  obtain ⟨u, records, result⟩ := out
  obtain ⟨u', _, result'⟩ := out'
  obtain ⟨rfl, ⟨a, b, rfl, rfl, hab⟩ | ⟨e, rfl, rfl⟩⟩ := Logged.map_eq_map.1 hr
  · obtain ⟨hs, hr⟩ := hk a b hab u u' hs
    obtain ⟨hrecords, hresult⟩ := Logged.mk.inj hr
    refine ⟨hs, ?_⟩
    simp only [Logged.map, hrecords, hresult]
  · exact ⟨hs, rfl⟩

theorem alike_ofExcept_bind {x : Except ε α} {k l : α → Action ε β}
    (hk : ∀ a, (k a).Alike g (l a)) : (ofExcept x >>= k).Alike g (ofExcept x >>= l) := by
  refine (alike_ofExcept (f := id) rfl).bind fun a b hab => ?_
  obtain rfl : a = b := hab
  exact hk a

theorem alike_change {m n : Session → Session}
    (h : ∀ s t, s.hidden = t.hidden → (m s).hidden = (n t).hidden) (hab : f a = f b) :
    (change m >>= fun _ => pure a : Action ε α).Alike f (change n >>= fun _ => pure b) :=
  fun s t hst => ⟨h s t hst, congrArg (pure : γ → Logged ε γ) hab⟩

/-- What changes no credentials hides them still. -/
theorem alike_change_self {m : Session → Session} (h : ∀ s, (m s).hidden = m s.hidden)
    (hab : f a = f b) :
    (change m >>= fun _ => pure a : Action ε α).Alike f (change m >>= fun _ => pure b) :=
  alike_change (fun s t hst => by rw [h, h, hst]) hab

end

end Action

-- ---------------------------------------------------------------------------
-- Shown arguments
-- ---------------------------------------------------------------------------

namespace Credentials

/-- The complaint of a missing field without the arguments that it is told with. -/
def withoutArguments (c : Problem × Option Value) : Problem × Option Value :=
  (c.1, if c.1.fault = .missing then none else c.2)

/-- The arguments that are shown since some are missing. -/
def shownArguments (fields : List Entry) : Option (List Entry) :=
  if ∃ c ∈ complaints fields, c.1.fault = .missing then some fields else none

theorem argumentComplaints_eq (fields : List Entry) : argumentComplaints fields =
    (complaints fields).map fun c =>
      (c.1, if c.1.fault = .missing then some (.map fields) else c.2) := by
  rw [argumentComplaints, complaints]
  cases ofFields fields with
  | ok c => rfl
  | error problems =>
    rw [Field.argumentComplaints, List.map_map]
    rfl

/-- What the errors show differs in the arguments that are told with a missing field. -/
theorem argumentComplaints_congr {fields₁ fields₂ : List Entry}
    (h : maskFields fields₁ = maskFields fields₂) :
    (argumentComplaints fields₁).map withoutArguments =
        (argumentComplaints fields₂).map withoutArguments ∧
      (shownArguments fields₁ = shownArguments fields₂ →
        argumentComplaints fields₁ = argumentComplaints fields₂) := by
  have hc : complaints fields₁ = complaints fields₂ := by
    rw [← complaints_maskFields fields₁, ← complaints_maskFields fields₂, h]
  have hwithout (fields : List Entry) : (argumentComplaints fields).map withoutArguments =
      (complaints fields).map withoutArguments := by
    rw [argumentComplaints_eq, List.map_map]
    refine List.map_congr_left fun c _ => ?_
    by_cases hm : c.1.fault = .missing <;> simp [withoutArguments, hm]
  refine ⟨by rw [hwithout, hwithout, hc], fun hs => ?_⟩
  rw [argumentComplaints_eq, argumentComplaints_eq, ← hc]
  rw [shownArguments, shownArguments, ← hc] at hs
  by_cases hm : ∃ c ∈ complaints fields₁, c.1.fault = .missing
  · rw [if_pos hm, if_pos hm, Option.some.injEq] at hs
    rw [hs]
  · refine List.map_congr_left fun c hcm => ?_
    have hn : c.1.fault ≠ .missing := fun hmissing => hm ⟨c, hcm, hmissing⟩
    rw [if_neg hn, if_neg hn]

end Credentials

-- ---------------------------------------------------------------------------
-- Steps
-- ---------------------------------------------------------------------------

/-- The name by which a field is assigned to. -/
def Credentials.FieldName.attribute (field : FieldName) : AttributeName :=
  ⟨field.key, by cases field <;> rfl⟩

/-- The steps are the same, or they set tokens to different texts. A text that is read again has been
given blanks only. -/
inductive Step.SameButTokens : Step → Step → Prop
  | same {step : Step}
      (h : ∀ options, step = .reloadText options → Json.Layout.AddOnlyBlanks options) :
      SameButTokens step step
  | credentials {fields₁ fields₂ : List Entry}
      (h : Credentials.maskFields fields₁ = Credentials.maskFields fields₂) :
      SameButTokens (.setCredentials (some fields₁)) (.setCredentials (some fields₂))
  | token {field : Credentials.FieldName} (h : field = .accessToken ∨ field = .refreshToken)
      (t u : Text) : SameButTokens (.setCredentialField field.attribute (.text t))
        (.setCredentialField field.attribute (.text u))

def Step.shownArguments : Step → Option (List Entry)
  | .setCredentials (some fields) => Credentials.shownArguments fields
  | _ => none

/-- The answer to a step without the tokens that a written document holds. -/
def Step.shown : Step → Reply → Reply
  | .encode, .document v => .document (Profile.maskTokens v)
  | .encodeText _, .text _ => .text []
  | _, reply => reply

namespace Session

open ConnectionProfile.Action (Alike alike_session alike_pure alike_fail alike_lift alike_ofExcept
  alike_ofExcept_bind alike_change alike_change_self)

theorem alike_holder (i : Nat) : (holder i).Alike id (holder i) := by
  refine alike_session.bind fun s t hst => ?_
  rw [holders_congr hst]
  cases t.holders[i]? with
  | none => exact alike_fail _
  | some h => exact alike_pure rfl

theorem alike_credentialsObject (h : Holder) : (credentialsObject h).Alike
    (fun found => (found.1, found.2.hidden)) (credentialsObject h) := by
  refine alike_session.bind fun s t hst => ?_
  have hc := credentialsOf_congr hst h
  cases h.credentials with
  | none => exact alike_fail _
  | some object =>
    cases hs : s.credentialsOf h with
    | none =>
      cases ht : t.credentialsOf h with
      | none => exact alike_fail _
      | some d =>
        rw [hs, ht] at hc
        cases hc
    | some c =>
      cases ht : t.credentialsOf h with
      | none =>
        rw [hs, ht] at hc
        cases hc
      | some d =>
        rw [hs, ht] at hc
        exact alike_pure (congrArg (Prod.mk object) (Option.some.inj hc))

theorem setField_congr {c d : Credentials} (hcd : c.hidden = d.hidden) (name : AttributeName)
    (v : Value) :
    (setField c name v).map Credentials.hidden = (setField d name v).map Credentials.hidden := by
  unfold setField
  cases Credentials.FieldName.ofKey? name.text with
  | some field =>
    refine congrArg Except.ok ?_
    rw [Credentials.hidden_set, Credentials.hidden_set, hcd]
  | none =>
    cases (Assignment.toOther name).mapError StepError.assign with
    | error e => rfl
    | ok u => exact congrArg Except.ok hcd

theorem setField_token {c d : Credentials} (hcd : c.hidden = d.hidden)
    {field : Credentials.FieldName} (hf : field = .accessToken ∨ field = .refreshToken)
    (t u : Text) : (setField c field.attribute (.text t)).map Credentials.hidden =
      (setField d field.attribute (.text u)).map Credentials.hidden := by
  have hk : Credentials.FieldName.ofKey? field.key = some field := by cases field <;> rfl
  have ht := Credentials.isTokenKey_key field |>.2 hf
  simp only [setField, Credentials.FieldName.attribute, hk]
  refine congrArg Except.ok ?_
  rw [Credentials.hidden_set, Credentials.hidden_set, hcd, if_pos ht, if_pos ht]
  rfl

theorem checkCredentials_congr {fields₁ fields₂ : List Entry}
    (h : Credentials.maskFields fields₁ = Credentials.maskFields fields₂) :
    ((Origin.checkCredentials (some fields₁)).map (Option.map Credentials.hidden)) =
      (Origin.checkCredentials (some fields₂)).map (Option.map Credentials.hidden) := by
  have hc (fields : List Entry) :
      (Origin.checkCredentials (some fields)).map (Option.map Credentials.hidden) =
        (Credentials.ofFields (Credentials.maskFields fields)).map some := by
    rw [← Credentials.ofFields_map_hidden, Origin.checkCredentials]
    cases Credentials.ofFields fields <;> rfl
  rw [hc, hc, h]

section
variable {i : Nat} {h : Holder}

theorem alike_setCredentials {fields₁ fields₂ : Option (List Entry)}
    (hc : (Origin.checkCredentials fields₁).map (Option.map Credentials.hidden) =
      (Origin.checkCredentials fields₂).map (Option.map Credentials.hidden)) :
    (perform i h (.setCredentials fields₁)).Alike id (perform i h (.setCredentials fields₂)) := by
  refine (alike_ofExcept (f := Option.map Credentials.hidden) ?_).bind fun c d hcd =>
    alike_change (fun s t hst => ?_) rfl
  · rw [Except.map_mapError, Except.map_mapError, hc]
  · rw [hidden_replaceCredentials, hidden_replaceCredentials, hst, hcd]

theorem alike_setCredentialField {name : AttributeName} {v w : Value}
    (hf : ∀ c d : Credentials, c.hidden = d.hidden →
      (setField c name v).map Credentials.hidden = (setField d name w).map Credentials.hidden) :
    (perform i h (.setCredentialField name v)).Alike id
      (perform i h (.setCredentialField name w)) := by
  refine (alike_credentialsObject h).bind fun ⟨object, c⟩ ⟨_, d⟩ hcd => ?_
  obtain ⟨rfl, hcd⟩ := Prod.mk.inj hcd
  refine (alike_ofExcept (hf c d hcd)).bind fun c d hcd => alike_change (fun s t hst => ?_) rfl
  rw [hidden_setCredentials, hidden_setCredentials, hst, hcd]

theorem alike_replace {x y : Logged StepError Profile}
    (hxy : x.map Profile.hidden = y.map Profile.hidden) :
    (Action.lift x >>= fun p => Action.change (·.replace i p) >>= fun _ => pure Reply.done :
      Action StepError Reply).Alike id
      (Action.lift y >>= fun p => Action.change (·.replace i p) >>= fun _ => pure Reply.done) := by
  refine (alike_lift hxy).bind fun p q hpq => alike_change (fun s t hst => ?_) rfl
  rw [hidden_replace, hidden_replace, hst, hpq]

end

theorem alike_perform_same (i : Nat) (h : Holder) (step : Step)
    (hb : ∀ options, step = .reloadText options → Json.Layout.AddOnlyBlanks options) :
    (perform i h step).Alike step.shown (perform i h step) := by
  cases step with
  | setServer | setIdentity | clearPins | reversePins | holdPins =>
    exact alike_change_self (fun _ => rfl) rfl
  | setCredentials fields => exact alike_setCredentials rfl
  | setCredentialField name v =>
    exact alike_setCredentialField fun c d hcd => setField_congr hcd name v
  | setCredentialTable c =>
    refine (alike_credentialsObject h).bind fun ⟨object, _⟩ ⟨_, _⟩ hcd => ?_
    obtain ⟨rfl, -⟩ := Prod.mk.inj hcd
    refine alike_change (fun s t hst => ?_) rfl
    rw [hidden_setCredentials, hidden_setCredentials, hst]
  | appendPin fields | appendToSource fields =>
    refine alike_ofExcept_bind fun p => ?_
    exact alike_change_self (fun _ => rfl) rfl
  | insertPin index fields =>
    refine alike_ofExcept_bind fun p => ?_
    split
    · exact alike_change_self (fun _ => rfl) rfl
    · exact alike_fail _
  | popPin index =>
    refine alike_session.bind fun s t hst => ?_
    rw [pinsOf_congr hst]
    split
    · exact alike_change_self (fun _ => rfl) rfl
    · exact alike_fail _
  | removePin fields =>
    refine alike_ofExcept_bind fun p => ?_
    refine alike_session.bind fun s t hst => ?_
    rw [pinsOf_congr hst]
    split
    · exact alike_change_self (fun _ => rfl) rfl
    · exact alike_fail _
  | countPin fields =>
    refine alike_ofExcept_bind fun p => ?_
    refine alike_session.bind fun s t hst => ?_
    rw [pinsOf_congr hst]
    exact alike_pure rfl
  | appendToHeld fields =>
    refine alike_ofExcept_bind fun p => ?_
    refine alike_session.bind fun s t hst => ?_
    rw [held_congr hst]
    split
    · exact alike_change_self (fun _ => rfl) rfl
    · exact alike_pure rfl
  | shouldPin => exact alike_session.bind fun _ _ _ => alike_pure rfl
  | fingerprints | changeFingerprints => exact alike_pure rfl
  | quote =>
    refine alike_session.bind fun s t hst => ?_
    rw [Profile.quote_congr (view_congr hst h)]
    exact alike_ofExcept_bind fun _ => alike_pure rfl
  | encode =>
    refine alike_session.bind fun s t hst => ?_
    refine (alike_ofExcept (Profile.encode_congr (view_congr hst h))).bind fun v w hvw => ?_
    exact alike_pure (congrArg Reply.document hvw)
  | encodeText options =>
    -- under these options the texts may be read as anything, so only their being there is compared
    refine alike_session.bind fun s t hst => ?_
    have he := Profile.encodeText_congr (view_congr hst h) options (g := fun _ => ())
      fun _ _ _ => rfl
    exact (alike_ofExcept he).bind fun _ _ _ => alike_pure rfl
  | reload =>
    refine alike_session.bind fun s t hst => ?_
    refine (alike_ofExcept (Profile.encode_congr (view_congr hst h))).bind fun v w hvw =>
      alike_replace ?_
    rw [Logged.map_mapError, Logged.map_mapError, Profile.decode_map_hidden_congr hvw]
  | reloadText options =>
    -- the texts differ, but with blanks only they are read alike, and that is what counts
    refine alike_session.bind fun s t hst => ?_
    have he := Profile.encodeText_congr (view_congr hst h) options fun _ _ hread =>
      hread (hb options rfl)
    refine (alike_ofExcept he).bind fun u v huv => alike_replace ?_
    rw [Logged.map_mapError, Logged.map_mapError, Profile.ofText_congr huv]
  | fork =>
    refine alike_session.bind fun s t hst => ?_
    refine (alike_lift (f := Profile.hidden) ?_).bind fun p q hpq =>
      alike_change (fun s t hst => ?_) rfl
    · rw [Logged.map_mapError, Logged.map_mapError, Profile.copy_congr (view_congr hst h)]
    · rw [hidden_addSharing, hidden_addSharing, hst, hpq]
  | isSame other =>
    refine alike_session.bind fun s t hst => ?_
    rw [holders_congr hst]
    split
    · exact alike_pure rfl
    · exact alike_fail _

theorem alike_perform (i : Nat) (h : Holder) {step₁ step₂ : Step}
    (hs : step₁.SameButTokens step₂) :
    (perform i h step₁).Alike step₁.shown (perform i h step₂) := by
  cases hs with
  | same hb => exact alike_perform_same i h _ hb
  | credentials hf => exact alike_setCredentials (checkCredentials_congr hf)
  | token hf t u =>
    exact alike_setCredentialField fun c d hcd => setField_token hcd hf t u

theorem shown_congr {step₁ step₂ : Step} (h : step₁.SameButTokens step₂) :
    step₁.shown = step₂.shown := by
  cases h <;> rfl

-- ---------------------------------------------------------------------------
-- Runs
-- ---------------------------------------------------------------------------

/-- What the error of a step shows when a check fails. -/
def complaints (p : Profile) : Step → List (Problem × Option Value)
  | .setCredentials (some fields) => Credentials.argumentComplaints fields
  | .appendPin fields | .insertPin _ fields | .removePin fields | .countPin fields
  | .appendToSource fields | .appendToHeld fields => Pin.argumentComplaints fields
  | .reload => Profile.told p.toDocument
  | .reloadText options =>
    match encodeText p options with
    | .ok t => Profile.toldOfText (.text t)
    | .error _ => []
  | _ => []

/-- What is seen of a step. -/
structure Observation where
  answer : Logged StepError Reply
  /-- What the error shows besides. -/
  complaints : List (Problem × Option Value)
  /-- The profiles after the step, as messages show them. -/
  messages : List Text
  session : Session

def Observation.withoutArguments (o : Observation) : Observation :=
  { o with complaints := o.complaints.map Credentials.withoutArguments }

def messages (s : Session) : List Text := s.profiles.map Profile.quoted

def observe (s : Session) (i : Nat) (step : Step) : Observation where
  answer := (s.step i step).2.map step.shown
  complaints := ((s.profile? i).map fun p => complaints p step).getD []
  messages := (s.step i step).1.messages
  session := (s.step i step).1.hidden

/-- What is seen of the steps of a run. -/
def observations (s : Session) : List (Nat × Step) → List Observation
  | [] => []
  | (i, step) :: rest => s.observe i step :: (s.step i step).1.observations rest

section
variable {s t : Session} {step₁ step₂ : Step}

theorem messages_congr (hst : s.hidden = t.hidden) : s.messages = t.messages := by
  have hm (s : Session) : s.hidden.messages = s.messages := by
    rw [messages, messages, profiles_hidden, List.map_map]
    exact List.map_congr_left fun p _ => p.quoted_hidden
  rw [← hm s, hst, hm]

theorem complaints_same {p q : Profile} (h : p.hidden = q.hidden) {step : Step}
    (hb : ∀ options, step = .reloadText options → Json.Layout.AddOnlyBlanks options) :
    complaints p step = complaints q step := by
  cases step with
  | reload => exact Profile.told_congr (Profile.maskTokens_toDocument_congr h)
  | reloadText options =>
    have hc (p : Profile) : complaints p (.reloadText options) =
        match (encodeText p options).map fun t => Profile.toldOfText (.text t) with
        | .ok complaints => complaints
        | .error _ => [] := by
      rw [complaints]
      cases encodeText p options <;> rfl
    rw [hc, hc, Profile.encodeText_congr h options fun t u hread =>
      Profile.toldOfText_congr (hread (hb options rfl))]
  | setCredentials fields => cases fields <;> rfl
  | _ => rfl

theorem complaints_congr {p q : Profile} (h : p.hidden = q.hidden)
    (hs : step₁.SameButTokens step₂) :
    (complaints p step₁).map Credentials.withoutArguments =
        (complaints q step₂).map Credentials.withoutArguments ∧
      (step₁.shownArguments = step₂.shownArguments → complaints p step₁ = complaints q step₂) := by
  cases hs with
  | same hb => exact ⟨by rw [complaints_same h hb], fun _ => complaints_same h hb⟩
  | credentials hf => exact Credentials.argumentComplaints_congr hf
  | token => exact ⟨rfl, fun _ => rfl⟩

/-- A step is answered alike on sessions that differ in tokens, and leaves such sessions behind. -/
theorem step_congr (hst : s.hidden = t.hidden) (i : Nat) (hs : step₁.SameButTokens step₂) :
    (s.step i step₁).1.hidden = (t.step i step₂).1.hidden ∧
      (s.step i step₁).2.map step₁.shown = (t.step i step₂).2.map step₂.shown := by
  rw [← shown_congr hs]
  refine ((alike_holder i).bind fun h g hg => ?_) s t hst
  obtain rfl : h = g := hg
  exact alike_perform i h hs

theorem observe_congr (hst : s.hidden = t.hidden) (i : Nat) (hs : step₁.SameButTokens step₂) :
    (s.observe i step₁).withoutArguments = (t.observe i step₂).withoutArguments ∧
      (step₁.shownArguments = step₂.shownArguments → s.observe i step₁ = t.observe i step₂) := by
  obtain ⟨hnext, hanswer⟩ := step_congr hst i hs
  have hp : (s.profile? i).map Profile.hidden = (t.profile? i).map Profile.hidden := by
    rw [← profile?_hidden, ← profile?_hidden, hst]
  rw [Observation.withoutArguments, Observation.withoutArguments, observe, observe, hanswer,
    messages_congr hnext, hnext]
  cases hs' : s.profile? i with
  | none =>
    cases ht' : t.profile? i with
    | none => exact ⟨rfl, fun _ => rfl⟩
    | some q =>
      rw [hs', ht'] at hp
      cases hp
  | some p =>
    cases ht' : t.profile? i with
    | none =>
      rw [hs', ht'] at hp
      cases hp
    | some q =>
      rw [hs', ht'] at hp
      obtain ⟨hwithout, hc⟩ := complaints_congr (Option.some.inj hp) hs
      simp only [Option.map_some, Option.getD_some, hwithout, true_and]
      intro harguments
      rw [hc harguments]

theorem observations_congr (hst : s.hidden = t.hidden) {steps₁ steps₂ : List (Nat × Step)}
    (hs : List.Forall₂ (fun e₁ e₂ => e₁.1 = e₂.1 ∧ e₁.2.SameButTokens e₂.2) steps₁ steps₂) :
    (s.observations steps₁).map Observation.withoutArguments =
        (t.observations steps₂).map Observation.withoutArguments ∧
      (steps₁.map (fun e => e.2.shownArguments) = steps₂.map (fun e => e.2.shownArguments) →
        s.observations steps₁ = t.observations steps₂) := by
  induction hs generalizing s t with
  | nil => exact ⟨rfl, fun _ => rfl⟩
  | @cons e₁ e₂ _ _ he _ ih =>
    obtain ⟨i, step₁⟩ := e₁
    obtain ⟨_, step₂⟩ := e₂
    obtain ⟨rfl, hstep⟩ := he
    obtain ⟨hwithout, hfirst⟩ := observe_congr hst i hstep
    obtain ⟨hrest, hall⟩ := ih (step_congr hst i hstep).1
    rw [observations, observations]
    refine ⟨by rw [List.map_cons, List.map_cons, hwithout, hrest], fun harguments => ?_⟩
    obtain ⟨ha, hs⟩ := List.cons.inj harguments
    rw [hfirst ha, hall hs]

end

end Session

-- ---------------------------------------------------------------------------
-- New sessions
-- ---------------------------------------------------------------------------

namespace Origin

/-- The origins are the same, or they give tokens different texts. -/
inductive SameButTokens : Origin → Origin → Prop
  | same (o : Origin) : SameButTokens o o
  | addresses (server identity : Value) {fields₁ fields₂ : List Entry} (pins : List (List Entry))
      (h : Credentials.maskFields fields₁ = Credentials.maskFields fields₂) :
      SameButTokens (.addresses server identity (some fields₁) pins)
        (.addresses server identity (some fields₂) pins)
  | document {v w : Value} (h : Profile.maskTokens v = Profile.maskTokens w) :
      SameButTokens (.document v) (.document w)

/-- Of several pins only the first that is bad is complained of. -/
def pinComplaints : List (List Entry) → List (Problem × Option Value)
  | [] => []
  | fields :: rest =>
    match Pin.ofFields fields with
    | .ok _ => pinComplaints rest
    | .error _ => Pin.argumentComplaints fields

/-- What the error shows when a check fails. Credentials come before pins. -/
def complaints : Origin → List (Problem × Option Value)
  | .addresses _ _ none pins => pinComplaints pins
  | .addresses _ _ (some fields) pins =>
    match Credentials.ofFields fields with
    | .ok _ => pinComplaints pins
    | .error _ => Credentials.argumentComplaints fields
  | .document v => Profile.told v
  | .text v => Profile.toldOfText v

/-- The arguments for credentials that are shown since some are missing. -/
def shownArguments : Origin → Option (List Entry)
  | .addresses _ _ (some fields) _ => Credentials.shownArguments fields
  | _ => none

variable {o₁ o₂ : Origin}

theorem complaints_congr (h : o₁.SameButTokens o₂) :
    o₁.complaints.map Credentials.withoutArguments =
        o₂.complaints.map Credentials.withoutArguments ∧
      (o₁.shownArguments = o₂.shownArguments → o₁.complaints = o₂.complaints) := by
  cases h with
  | same => exact ⟨rfl, fun _ => rfl⟩
  | document h =>
    have hd := Profile.told_congr h
    exact ⟨congrArg _ hd, fun _ => hd⟩
  | addresses server identity pins h =>
    rename_i fields₁ fields₂
    have hc := Session.checkCredentials_congr h
    rw [Origin.checkCredentials, Origin.checkCredentials] at hc
    rw [complaints, complaints]
    cases h₁ : Credentials.ofFields fields₁ <;> cases h₂ : Credentials.ofFields fields₂ <;>
      rw [h₁, h₂] at hc
    · exact Credentials.argumentComplaints_congr h
    · cases hc
    · cases hc
    · exact ⟨rfl, fun _ => rfl⟩

theorem profile_congr (h : o₁.SameButTokens o₂) :
    o₁.profile.map Profile.hidden = o₂.profile.map Profile.hidden := by
  cases h with
  | same => rfl
  | addresses server identity pins h =>
    have hc := Session.checkCredentials_congr h
    simp only [profile, Logged.map_bind]
    refine Logged.bind_congr_map (f := Option.map Credentials.hidden) ?_ fun c d hcd => ?_
    · change Logged.ofExcept (Except.map _ (Except.mapError _ _)) =
        Logged.ofExcept (Except.map _ (Except.mapError _ _))
      rw [Except.map_mapError, Except.map_mapError, hc]
    · have hcreate (c : Option Credentials) (pins : List Pin) :
          ((Profile.create server identity c pins).mapError OriginError.invalidProfile).map
            Profile.hidden =
          (Profile.create server identity (c.map Credentials.hidden) pins).mapError
            .invalidProfile := by
        rw [Logged.map_mapError]
        exact congrArg (Logged.mapError _) (Profile.create_mapTokens Value.hidden ..).symm
      simp only [hcreate, hcd]
  | document h =>
    rw [profile, profile, Logged.map_mapError, Logged.map_mapError,
      Profile.decode_map_hidden_congr h]

theorem session_congr (h : o₁.SameButTokens o₂) :
    o₁.session.map Session.hidden = o₂.session.map Session.hidden := by
  have hsource : o₁.source = o₂.source := by cases h <;> rfl
  simp only [session, Logged.map_bind, Logged.map_pure, hsource]
  refine Logged.bind_congr_map (profile_congr h) fun p q hpq => ?_
  rw [Session.hidden_start, Session.hidden_start, hpq]

end Origin

namespace Session

theorem map_session_congr {o₁ o₂ : Origin} (ho : o₁.SameButTokens o₂) {γ : Type}
    {f g : Session → γ} (hfg : ∀ s t, s.hidden = t.hidden → f s = g t) :
    o₁.session.map f = o₂.session.map g := by
  obtain ⟨hrecords, ⟨s, t, hs, ht, hst⟩ | hfail⟩ := Logged.map_eq_map.1 (Origin.session_congr ho)
  · exact Logged.map_eq_map.2 ⟨hrecords, .inl ⟨s, t, hs, ht, hfg s t hst⟩⟩
  · exact Logged.map_eq_map.2 ⟨hrecords, .inr hfail⟩

/-- No run tells the tokens, unless credentials lack a required argument: the error shows all arguments
then. If two runs differ in tokens only, then what is seen of their steps is the same but for arguments
that are shown like this, what is made first is the same apart from tokens, and both fail alike. When
no arguments are shown, or the same ones, then all is the same. -/
theorem tokens_unobserved_along_history {o₁ o₂ : Origin} (ho : o₁.SameButTokens o₂)
    {steps₁ steps₂ : List (Nat × Step)}
    (hs : List.Forall₂ (fun e₁ e₂ => e₁.1 = e₂.1 ∧ e₁.2.SameButTokens e₂.2) steps₁ steps₂) :
    (o₁.complaints.map Credentials.withoutArguments =
        o₂.complaints.map Credentials.withoutArguments ∧
      o₁.session.map (fun s =>
          (s.hidden, s.messages, (s.observations steps₁).map Observation.withoutArguments)) =
        o₂.session.map fun s =>
          (s.hidden, s.messages, (s.observations steps₂).map Observation.withoutArguments)) ∧
    (o₁.shownArguments = o₂.shownArguments → o₁.complaints = o₂.complaints) ∧
    (steps₁.map (fun e => e.2.shownArguments) = steps₂.map (fun e => e.2.shownArguments) →
      o₁.session.map (fun s => (s.hidden, s.messages, s.observations steps₁)) =
        o₂.session.map fun s => (s.hidden, s.messages, s.observations steps₂)) := by
  obtain ⟨hwithout, hcomplaints⟩ := Origin.complaints_congr ho
  refine ⟨⟨hwithout, map_session_congr ho fun s t hst => ?_⟩, hcomplaints, fun harguments =>
    map_session_congr ho fun s t hst => ?_⟩
  · rw [hst, messages_congr hst, (observations_congr hst hs).1]
  · rw [hst, messages_congr hst, (observations_congr hst hs).2 harguments]

/-- A token is set through a fork that shares the credentials, and then it is written and read. -/
theorem tokens_unobserved_along_history_through_fork :
    let origin (token : Text) : Origin := .addresses (.text "http://a") .null
      (some [(.text "user_id", .text "u"), (.text "home_server", .text "http://a"),
        (.text "access_token", .text token)]) []
    let steps (token : Text) : List (Nat × Step) := [(0, .fork),
      (1, .setCredentialField Credentials.FieldName.accessToken.attribute (.text token)),
      (0, .reloadText [(.text "indent", .int 2)]), (0, .quote)]
    ∃ s t, (origin "s").session.result = .ok s ∧ (origin "t").session.result = .ok t ∧
      s.hidden = t.hidden ∧ s.observations (steps "x") = t.observations (steps "\"") := by
  intro origin steps
  have hmask (token : Text) : Credentials.maskFields [(.text "user_id", .text "u"),
      (.text "home_server", .text "http://a"), (.text "access_token", .text token)] =
        [(.text "user_id", .text "u"), (.text "home_server", .text "http://a"),
          (.text "access_token", .text [])] := rfl
  have ho : (origin "s").SameButTokens (origin "t") :=
    .addresses _ _ _ ((hmask "s").trans (hmask "t").symm)
  have hs : List.Forall₂ (fun e₁ e₂ => e₁.1 = e₂.1 ∧ e₁.2.SameButTokens e₂.2) (steps "x")
      (steps "\"") := by
    refine .cons ⟨rfl, .same nofun⟩ (.cons ⟨rfl, .token (.inl rfl) _ _⟩ (.cons ⟨rfl, .same ?_⟩
      (.cons ⟨rfl, .same nofun⟩ .nil)))
    rintro _ ⟨⟩
    exact ⟨rfl, nofun⟩
  obtain ⟨-, ⟨s, t, hso, hto, hst⟩ | ⟨e, he, -⟩⟩ :=
    Logged.map_eq_map.1 ((tokens_unobserved_along_history ho hs).2.2 rfl)
  · obtain ⟨hst, hobserved⟩ := Prod.mk.inj hst
    exact ⟨s, t, hso, hto, hst, (Prod.mk.inj hobserved).2⟩
  · cases he

/-- Without a user id the error shows the token. -/
theorem not_tokens_unobserved_without_userId :
    let origin (token : Text) : Origin := .addresses (.text "http://a") .null
      (some [(.text "home_server", .text "h"), (.text "access_token", .text token)]) []
    (origin "s1").SameButTokens (origin "s2") ∧
      (origin "s1").complaints = [(⟨"user_id", .missing⟩, some (.map
        [(.text "home_server", .text "h"), (.text "access_token", .text "s1")]))] ∧
      (origin "s1").complaints ≠ (origin "s2").complaints := by
  intro origin
  have hcomplaints (token : Text) : (origin token).complaints = [(⟨"user_id", .missing⟩, some (.map
      [(.text "home_server", .text "h"), (.text "access_token", .text token)]))] := by
    have hfields : Credentials.ofFields [(.text "home_server", .text "h"),
        (.text "access_token", .text token)] = .error [⟨"user_id", .missing⟩] := rfl
    simp only [origin, Origin.complaints, Credentials.argumentComplaints, hfields]
    rfl
  have hmask (token : Text) : Credentials.maskFields [(.text "home_server", .text "h"),
      (.text "access_token", .text token)] =
        [(.text "home_server", .text "h"), (.text "access_token", .text [])] := rfl
  refine ⟨.addresses _ _ _ ((hmask "s1").trans (hmask "s2").symm), hcomplaints "s1", ?_⟩
  rw [hcomplaints, hcomplaints]
  simp only [ne_eq, List.cons.injEq, Prod.mk.injEq, Option.some.injEq, Value.map.injEq,
    Value.text.injEq, true_and, and_true]
  decide

end Session

end ConnectionProfile
