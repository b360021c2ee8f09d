import ConnectionProfile.Proofs.Session.Origin
import ConnectionProfile.Proofs.Session.Sharing

/-!
# The identity server along a history

A profile without an identity server of its own follows its home server, wherever that is set to. It
stops when it is given an identity server, and when it is made again: by a reload, or by the fork
that it comes from. `Addresses.along` says what a history has decided for every profile, and after
every run the profiles show it.
-/

namespace ConnectionProfile

open Profile (Renews normalAddress)

/-- An address as one would set it: null, or a text without surrogates. -/
def Value.IsAddress (v : Value) : Prop := v = .null ∨ ∃ t : Text, v = .text t ∧ t.isUnicode = true

/-- The step sets addresses in the sense of `IsAddress` only, and a text that it goes through has
nothing but blanks added. -/
def Step.SetsAddresses : Step → Prop
  | .setServer v | .setIdentity v => v.IsAddress
  | .reloadText options => Json.Layout.AddOnlyBlanks options
  | _ => True

/-- The profile whose addresses a step on profile `i` changes, when there are `count` profiles: a
fork makes a new one. -/
def Step.concerned (count i : Nat) : Step → Nat
  | .fork => count
  | _ => i

namespace Session

-- ---------------------------------------------------------------------------
-- Decisions
-- ---------------------------------------------------------------------------

/-- What was decided last about an identity server. -/
inductive Decision where
  /-- It is the home server, now and later. -/
  | follows
  | fixed (v : Value)

def Decision.ofValue (v : Value) : Decision := if v.isNull then .follows else .fixed v

/-- The home server of a profile, and the decision about its identity server. -/
structure Addresses where
  server : Value
  decision : Decision

namespace Addresses

/-- The identity server that is in force. -/
def identity (a : Addresses) : Value :=
  match a.decision with
  | .follows => a.server
  | .fixed v => v

/-- What is made again has the identity server that was in force for its own. -/
def renewed (a : Addresses) : Addresses :=
  ⟨normalAddress a.server, .fixed (normalAddress a.identity)⟩

/-- What a step makes of the addresses of its profile. A fork makes them those of a new profile. -/
def after (a : Addresses) : Step → Addresses
  | .setServer v => { a with server := v }
  | .setIdentity v => { a with decision := .ofValue v }
  | .reload | .reloadText _ | .fork => a.renewed
  | _ => a

/-- The addresses that a first profile is given. -/
def ofGiven (server identity : Value) : Addresses :=
  ⟨normalAddress server, if identity.isNull then .follows else .fixed (normalAddress identity)⟩

/-- What a history has decided for profile `j`, when `first` was given to the first one. -/
def along (first : Addresses) : List (Nat × Step) → Nat → Addresses
  | [], _ => first
  | (k, step) :: past, j =>
    if j = step.concerned (size past) k then (along first past k).after step
    else along first past j

/-- The addresses of a profile that is held. -/
def ofHolder (h : Holder) : Addresses := ⟨h.server, .ofValue h.identity⟩

theorem identity_ofHolder (s : Session) (h : Holder) :
    (ofHolder h).identity = (s.view h).effectiveIdentity := by
  unfold identity ofHolder Decision.ofValue Profile.effectiveIdentity view
  cases h.identity.isNull <;> rfl

theorem after_of_reads {step : Step} (hr : step.reads = true) (a : Addresses) :
    a.after step = a := by
  cases step with
  | setServer | setIdentity | reload | reloadText | fork => cases hr
  | _ => rfl

theorem after_of_editedPins? {pins rest : List Pin} {step : Step}
    (hp : editedPins? pins step = some rest) (a : Addresses) : a.after step = a := by
  cases step with
  | setServer | setIdentity | reload | reloadText | fork => cases hp
  | _ => rfl

end Addresses

-- ---------------------------------------------------------------------------
-- Addresses that are held
-- ---------------------------------------------------------------------------

/-- Both addresses of a profile that is held are addresses in the sense of `IsAddress`. -/
def HoldsAddresses (h : Holder) : Prop := h.server.IsAddress ∧ h.identity.IsAddress

theorem isUnicode_plain {v : Value} (h : v.IsAddress) : v.plain.isUnicode = true := by
  obtain rfl | ⟨t, rfl, ht⟩ := h
  · decide
  · exact ht

theorem isAddress_normalAddress {v : Value} (h : v.IsAddress) : (normalAddress v).IsAddress := by
  have hu := isUnicode_plain h
  refine .inr ⟨_, rfl, ?_⟩
  obtain ⟨u, ht, hw⟩ | ⟨-, hw⟩ := v.plain.withoutFinal_cases '/'
  · rw [hw]
    rw [ht, Text.isUnicode, List.all_append, Bool.and_eq_true] at hu
    exact hu.1
  · rwa [hw]

section
variable {s t : Session} {i : Nat} {h : Holder} {step : Step}

theorem HoldsAddresses.effectiveIdentity (ha : HoldsAddresses h) (s : Session) :
    (s.view h).effectiveIdentity.IsAddress := by
  unfold Profile.effectiveIdentity
  split
  · exact ha.1
  · exact ha.2

/-- A profile that is made again holds renewed addresses. -/
theorem holdsAddresses_of_renews {q : Profile} (hq : Renews q (s.view h)) (ha : HoldsAddresses h)
    (c : Option Nat) (list : Nat) :
    HoldsAddresses ⟨q.server, q.identity, c, list⟩ ∧
      Addresses.ofHolder ⟨q.server, q.identity, c, list⟩ = (Addresses.ofHolder h).renewed := by
  rw [Addresses.renewed, Addresses.identity_ofHolder s, hq.server, hq.identity]
  exact ⟨⟨isAddress_normalAddress ha.1, isAddress_normalAddress (ha.effectiveIdentity s)⟩, rfl⟩

/-- One profile is held as `g`, and all others as before. -/
def Puts (s : Session) (k : Nat) (g : Holder) (t : Session) : Prop :=
  ∀ j : Nat, t.holders[j]? = if j = k then some g else s.holders[j]?

theorem puts_self (hi : s.holders[i]? = some h) (ht : t.holders = s.holders) : Puts s i h t := by
  intro j
  rw [ht]
  split
  · subst j
    exact hi
  · rfl

theorem puts_setHolder (hi : s.holders[i]? = some h) (g : Holder) : Puts s i g (s.setHolder i g) := by
  obtain ⟨hlt, -⟩ := List.getElem?_eq_some_iff.1 hi
  intro j
  rw [setHolder]
  split
  · subst j
    exact List.getElem?_set_self hlt
  · rename_i hj
    exact List.getElem?_set_ne (Ne.symm hj)

/-- Every effect leaves all addresses alone but those that the step concerns. -/
theorem Effect.puts (he : Effect s i h step t) (hi : s.holders[i]? = some h)
    (hs : step.SetsAddresses) (ha : HoldsAddresses h) :
    ∃ g, Puts s (step.concerned s.holders.length i) g t ∧ HoldsAddresses g ∧
      Addresses.ofHolder g = (Addresses.ofHolder h).after step := by
  cases he with
  | reading hr =>
    cases step with
    | fork => cases hr
    | _ => exact ⟨h, puts_self hi rfl, ha, (Addresses.after_of_reads hr _).symm⟩
  | server v => exact ⟨_, puts_setHolder hi _, ⟨hs, ha.2⟩, rfl⟩
  | identity v => exact ⟨_, puts_setHolder hi _, ⟨ha.1, hs⟩, rfl⟩
  | @credentials _ c hc =>
    cases c <;> exact ⟨_, puts_setHolder hi _, ha, rfl⟩
  | pins hp =>
    cases step with
    | fork => cases hp
    | _ => exact ⟨h, puts_self hi rfl, ha, (Addresses.after_of_editedPins? hp _).symm⟩
  | field | table | source | hold | held | nothingHeld => exact ⟨h, puts_self hi rfl, ha, rfl⟩
  | reload hp =>
    exact ⟨_, puts_setHolder hi _, holdsAddresses_of_renews (Profile.renews_of_decode hp) ha _ _⟩
  | reloadText ht hp =>
    obtain ⟨-, layout, ho, ht⟩ := Profile.encodeText_ok.1 ht
    have hq := Profile.renews_of_ofText (hs.isSpaced ho) (isUnicode_plain ha.1)
      (isUnicode_plain (ha.effectiveIdentity s)) ht hp
    exact ⟨_, puts_setHolder hi _, holdsAddresses_of_renews hq ha _ _⟩
  | fork hp =>
    have hq := holdsAddresses_of_renews (Profile.renews_of_create hp) ha h.credentials
      s.pinLists.length
    exact ⟨_, fun j => getElem?_snoc _ _ _, hq⟩

end

-- ---------------------------------------------------------------------------
-- Along a history
-- ---------------------------------------------------------------------------

/-- The profiles hold the addresses that the history has decided, if all its steps set such. -/
structure AddressedAlong (first : Addresses) (past : List (Nat × Step)) (s : Session) : Prop where
  shares : SharesAlong past s
  holds : (∀ e ∈ past, e.2.SetsAddresses) → ∀ (j : Nat) (h : Holder), s.holders[j]? = some h →
    HoldsAddresses h ∧ Addresses.along first past j = .ofHolder h

theorem AddressedAlong.effect {first : Addresses} {past : List (Nat × Step)} {s t : Session}
    {i : Nat} {h : Holder} {step : Step} (hs : AddressedAlong first past s)
    (hi : s.holders[i]? = some h) (he : Effect s i h step t) :
    AddressedAlong first ((i, step) :: past) t where
  shares := hs.shares.effect hi he
  holds hall j g hj := by
    obtain ⟨hstep, hpast⟩ := List.forall_mem_cons.1 hall
    obtain ⟨ha, hfirst⟩ := hs.holds hpast i h hi
    obtain ⟨g', hputs, hg, hafter⟩ := he.puts hi hstep ha
    rw [hputs, hs.shares.size] at hj
    rw [Addresses.along, hfirst]
    by_cases hc : j = step.concerned (size past) i
    · rw [if_pos hc] at hj ⊢
      cases hj
      exact ⟨hg, hafter.symm⟩
    · rw [if_neg hc] at hj ⊢
      exact hs.holds hpast j g hj

theorem addressedAlong_start {p : Profile} {s : Text} {i : Option Text} (hp : p.Stores s i)
    (hs : s.isUnicode = true) (hi : ∀ t ∈ i, t.isUnicode = true) (source : List Pin) :
    AddressedAlong (.ofGiven (.text s) (.ofTextOption i)) [] (start p source) where
  shares := sharesAlong_start p source
  holds _ j h hj := by
    obtain rfl : h = ⟨p.server, p.identity, _, _⟩ := by
      cases j with
      | zero => exact (Option.some.inj hj).symm
      | succ j => cases hj
    have hnormal {t : Text} (ht : t.isUnicode = true) : (normalAddress (.text t)).IsAddress :=
      isAddress_normalAddress (.inr ⟨t, rfl, ht⟩)
    rw [HoldsAddresses, Addresses.ofHolder, hp.server, hp.identity]
    cases i with
    | none => exact ⟨⟨hnormal hs, .inl rfl⟩, rfl⟩
    | some i => exact ⟨⟨hnormal hs, hnormal (hi i rfl)⟩, rfl⟩

/-- After every run the home server of a profile is the one that its history has decided, and so is
the identity server that is in force: it follows the home server as long as nothing else was decided
since the profile was made, and otherwise it is what was decided last. -/
theorem identity_along_history {o : Origin} {s₀ : Session} (ho : o.session.result = .ok s₀)
    {server identity : Value} (hg : o.given = some (server, identity)) (hs : server.IsAddress)
    (hi : identity.IsAddress) {steps : List (Nat × Step)}
    (hsteps : ∀ e ∈ steps, e.2.SetsAddresses) {j : Nat} {p : Profile}
    (hp : (s₀.run steps).profile? j = some p) :
    let a := Addresses.along (.ofGiven server identity) (s₀.history steps) j
    p.server = a.server ∧ p.effectiveIdentity = a.identity := by
  obtain ⟨p₀, hp₀, rfl⟩ := Origin.session_ok.1 ho
  obtain ⟨s, i, hg', hstores⟩ := Origin.stores_of_profile hp₀
  rw [hg] at hg'
  cases hg'
  have hs : s.isUnicode = true := isUnicode_plain hs
  have hi : ∀ t ∈ i, t.isUnicode = true := by
    rintro t rfl
    exact isUnicode_plain hi
  have hrun := history_induction (addressedAlong_start hstores hs hi o.source)
    (fun _ _ _ _ _ hs hi he => hs.effect hi he) steps
  obtain ⟨h, hj, rfl⟩ := Option.map_eq_some_iff.1 hp
  obtain ⟨-, ha⟩ := hrun.holds (fun e he => hsteps e (mem_of_mem_history he)) j h hj
  rw [ha]
  exact ⟨rfl, (Addresses.identity_ofHolder _ h).symm⟩

theorem identity_along_history_empty_text :
    let s₀ := start ⟨.text "http://a", .null, none, []⟩ []
    let s := s₀.run [(0, .setServer (.text "http://b//")),
      (0, .reloadText [(.text "indent", .int 2)]), (0, .fork), (0, .setIdentity (.text [])),
      (1, .setServer (.text "http://c"))]
    (Origin.addresses (.text "http://a/") .null none []).session.result = .ok s₀ ∧
      ∃ p q, s.profile? 0 = some p ∧ s.profile? 1 = some q ∧
        p.effectiveIdentity.plain = [] ∧ q.effectiveIdentity.plain = "http://b" := by
  intro s₀ s
  have ho : (Origin.addresses (.text "http://a/") .null none []).session.result = .ok s₀ := rfl
  have hu {t : Text} (ht : t.isUnicode = true) : (Value.text t).IsAddress := .inr ⟨t, rfl, ht⟩
  have hsteps : ∀ e ∈ [(0, Step.setServer (.text "http://b//")),
      (0, .reloadText [(.text "indent", .int 2)]), (0, .fork), (0, .setIdentity (.text [])),
      (1, .setServer (.text "http://c"))], e.2.SetsAddresses := by
    simp only [List.forall_mem_cons, List.not_mem_nil, false_implies, implies_true, and_true]
    exact ⟨hu rfl, ⟨rfl, nofun⟩, trivial, hu rfl, hu rfl⟩
  obtain ⟨p, hp⟩ := Option.isSome_iff_exists.1
    (show (s.profile? 0).isSome = true by decide +kernel)
  obtain ⟨q, hq⟩ := Option.isSome_iff_exists.1
    (show (s.profile? 1).isSome = true by decide +kernel)
  refine ⟨ho, p, q, hp, hq, ?_, ?_⟩
  · rw [(identity_along_history ho rfl (hu rfl) (.inl rfl) hsteps hp).2]
    decide +kernel
  · rw [(identity_along_history ho rfl (hu rfl) (.inl rfl) hsteps hq).2]
    decide +kernel

/-- A text to indent by that is not blank is read as well, and it can name an identity server. -/
theorem not_identity_along_history_indent :
    let s₀ := start ⟨.text "http://a", .null, none, []⟩ []
    let steps : List (Nat × Step) := [(0, .reloadText
      [(.text "indent", .text "\"identity_server_url\": \"ftp://evil\", ")])]
    (Origin.addresses (.text "http://a") .null none []).session.result = .ok s₀ ∧
      (Addresses.along (.ofGiven (.text "http://a") .null) (s₀.history steps) 0).identity.plain =
        "http://a" ∧
      ∃ p, (s₀.run steps).profile? 0 = some p ∧ p.effectiveIdentity.plain = "ftp://evil" := by
  intro s₀ steps
  refine ⟨rfl, ?_, ?_⟩
  · decide +kernel
  · have hp : ((s₀.run steps).profile? 0).map (·.effectiveIdentity.plain) = some "ftp://evil" := by
      decide +kernel
    exact Option.map_eq_some_iff.1 hp

end Session

end ConnectionProfile
