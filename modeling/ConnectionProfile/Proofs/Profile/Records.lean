import ConnectionProfile.Profile.Document
import ConnectionProfile.Proofs.Logged

/-!
# Records of decoding

A profile that is decoded leaves no record of an error. When it cannot be decoded, the records say
so in the name of the part that found the error, never in the name of the tool.
-/

namespace ConnectionProfile

namespace Logged

/-- No error is recorded by a computation that succeeds, and none at all in the name of the tool. -/
structure IsOrderly {ε α : Type} (x : Logged ε α) : Prop where
  quiet : ∀ a, x.result = .ok a → ∀ r ∈ x.records, r.level ≠ .error
  apart : ∀ r ∈ x.records, r.level = .error → r.source ≠ .tool

section
variable {ε δ α β : Type} {x : Logged ε α} {f : α → Logged ε β}

theorem isOrderly_of_records (h : x.records = []) : x.IsOrderly :=
  ⟨fun _ _ _ hr => absurd hr (by simp [h]), fun _ hr => absurd hr (by simp [h])⟩

theorem isOrderly_pure (a : α) : (pure a : Logged ε α).IsOrderly := isOrderly_of_records rfl

theorem isOrderly_fail (e : ε) : (fail e : Logged ε α).IsOrderly := isOrderly_of_records rfl

theorem isOrderly_ofExcept (x : Except ε α) : (ofExcept x).IsOrderly := isOrderly_of_records rfl

theorem isOrderly_log {level : Level} (h : level ≠ .error) (source : Source) (t : Text) :
    (log level source t : Logged ε Unit).IsOrderly where
  quiet _ _ r hr := by
    rw [List.mem_singleton.1 hr]
    exact h
  apart r hr hl := by
    rw [List.mem_singleton.1 hr] at hl
    exact absurd hl h

/-- An error is recorded right before the computation fails. -/
theorem isOrderly_log_fail (level : Level) {source : Source} (h : source ≠ .tool) (t : Text)
    (e : ε) : (log level source t >>= fun _ => fail e : Logged ε α).IsOrderly where
  quiet _ ha := nomatch ha
  apart r hr _ := by
    rw [List.mem_singleton.1 hr]
    exact h

theorem IsOrderly.bind (hx : x.IsOrderly) (hf : ∀ a, (f a).IsOrderly) : (x >>= f).IsOrderly := by
  obtain ⟨records, result⟩ := x
  cases result with
  | error e => exact ⟨nofun, hx.apart⟩
  | ok a =>
    refine ⟨fun b hb r hr => ?_, fun r hr hl => ?_⟩
    · obtain hr | hr := List.mem_append.1 hr
      · exact hx.quiet a rfl r hr
      · exact (hf a).quiet b hb r hr
    · obtain hr | hr := List.mem_append.1 hr
      · exact hx.apart r hr hl
      · exact (hf a).apart r hr hl

theorem IsOrderly.mapError (hx : x.IsOrderly) (g : ε → δ) : (x.mapError g).IsOrderly where
  quiet a ha := hx.quiet a (mapError_ok.1 ha)
  apart := hx.apart

end

end Logged

open Logged

-- ---------------------------------------------------------------------------
-- New profiles
-- ---------------------------------------------------------------------------

theorem Uri.isOrderly_normalize (kind uri : Text) : (normalize kind uri).IsOrderly := by
  unfold normalize
  split
  · exact isOrderly_pure _
  · split
    · exact (isOrderly_log (by decide) _ _).bind fun _ => isOrderly_pure _
    · exact isOrderly_log_fail _ (by decide) _ _

namespace Profile

theorem isOrderly_logShowing_fail {ε α : Type} (v : Value) (t : Text) (e : ε) :
    (logShowing v t >>= fun _ => fail e : Logged ε α).IsOrderly where
  quiet _ ha := nomatch ha
  apart r hr _ := by
    obtain hr | hr := List.mem_append.1 hr
    · unfold logShowing at hr
      split at hr
      · simp [List.mem_singleton.1 hr]
      · cases hr
    · cases hr

theorem isOrderly_refuse {α : Type} (v : Value) (t : Text) (cause : InvalidProfile) :
    (refuse v t cause : Logged InvalidProfile α).IsOrderly := isOrderly_logShowing_fail v t _

theorem isOrderly_requireServer (v : Value) : (requireServer v).IsOrderly := by
  unfold requireServer
  split
  · split
    · exact isOrderly_pure _
    · exact isOrderly_refuse _ _ _
  · exact isOrderly_refuse _ _ _

theorem isOrderly_requireIdentity (v : Value) : (requireIdentity v).IsOrderly := by
  cases v with
  | null | text => exact isOrderly_pure _
  | _ => exact isOrderly_refuse _ _ _

theorem isOrderly_normalizeIdentity (i : Option Text) : (normalizeIdentity i).IsOrderly := by
  cases i with
  | none => exact isOrderly_pure _
  | some uri => exact (Uri.isOrderly_normalize _ _).bind fun _ => isOrderly_pure _

theorem isOrderly_create (server identity : Value) (c : Option Credentials) (pins : List Pin) :
    (create server identity c pins).IsOrderly :=
  (isOrderly_requireServer _).bind fun _ => (isOrderly_requireIdentity _).bind fun _ =>
    (Uri.isOrderly_normalize _ _).bind fun _ => (isOrderly_normalizeIdentity _).bind fun _ =>
      isOrderly_pure _

end Profile

-- ---------------------------------------------------------------------------
-- Decoding
-- ---------------------------------------------------------------------------

namespace Credentials

theorem isOrderly_require (field : FieldName) (entries : List Entry) :
    (require field entries).IsOrderly := by
  unfold require
  split
  · exact isOrderly_pure _
  · exact isOrderly_log_fail _ (by decide) _ _

theorem isOrderly_invalid (cause : Text) : (invalid cause).IsOrderly :=
  isOrderly_log_fail _ (by decide) _ _

theorem isOrderly_decode (v : Value) : (decode v).IsOrderly := by
  cases v with
  | map entries =>
    refine (isOrderly_require _ _).bind fun _ => (isOrderly_require _ _).bind fun _ =>
      (isOrderly_require _ _).bind fun _ => ?_
    split
    · exact isOrderly_pure _
    · exact isOrderly_invalid _
  | _ => exact isOrderly_invalid _

end Credentials

namespace Pin

theorem isOrderly_require (key : Text) (entries : List Entry) : (require key entries).IsOrderly := by
  unfold require
  split
  · exact isOrderly_pure _
  · exact isOrderly_log_fail _ (by decide) _ _

theorem isOrderly_invalid (cause : Text) : (invalid cause).IsOrderly :=
  isOrderly_log_fail _ (by decide) _ _

theorem isOrderly_decode (v : Value) : (decode v).IsOrderly := by
  cases v with
  | map entries =>
    refine (isOrderly_require _ _).bind fun _ => (isOrderly_require _ _).bind fun _ => ?_
    split
    · exact isOrderly_pure _
    · exact isOrderly_invalid _
  | _ => exact isOrderly_invalid _

end Pin

namespace Profile

theorem isOrderly_requireMapping (v : Value) : (requireMapping v).IsOrderly := by
  unfold requireMapping
  split
  · exact isOrderly_pure _
  · exact isOrderly_logShowing_fail _ _ _

section
variable (entries : List Entry)

theorem isOrderly_decodeServer : (decodeServer entries).IsOrderly := by
  unfold decodeServer
  split
  · exact isOrderly_log_fail _ (by decide) _ _
  · exact isOrderly_pure _
  · exact isOrderly_fail _

theorem isOrderly_decodeIdentity : (decodeIdentity entries).IsOrderly := by
  unfold decodeIdentity
  split
  · exact isOrderly_pure _
  · exact isOrderly_pure _
  · exact isOrderly_fail _

theorem isOrderly_decodeCredentials : (decodeCredentials entries).IsOrderly := by
  unfold decodeCredentials
  split
  · exact isOrderly_pure _
  · exact ((Credentials.isOrderly_decode _).mapError _).bind fun _ => isOrderly_pure _
  · exact isOrderly_fail _

theorem isOrderly_decodePinList (vs : List Value) : (decodePinList vs).IsOrderly := by
  induction vs with
  | nil => exact isOrderly_pure _
  | cons v vs ih =>
    exact ((Pin.isOrderly_decode v).mapError _).bind fun _ => ih.bind fun _ => isOrderly_pure _

theorem isOrderly_decodePins : (decodePins entries).IsOrderly := by
  unfold decodePins
  split
  · exact isOrderly_pure _
  · exact isOrderly_decodePinList _
  · exact isOrderly_fail _

end

theorem isOrderly_decodeParts (v : Value) : (decodeParts v).IsOrderly :=
  (isOrderly_requireMapping v).bind fun entries => (isOrderly_decodeServer entries).bind fun _ =>
    (isOrderly_decodeIdentity entries).bind fun _ => (isOrderly_decodeCredentials entries).bind
      fun _ => (isOrderly_decodePins entries).bind fun _ => isOrderly_pure _

theorem isOrderly_decode (v : Value) : (decode v).IsOrderly :=
  ((isOrderly_decodeParts v).mapError _).bind fun _ => (isOrderly_create _ _ _ _).mapError _

end Profile

end ConnectionProfile
