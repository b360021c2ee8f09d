import ConnectionProfile.Proofs.Json.Printed
import ConnectionProfile.Proofs.Overrides.Merged
import ConnectionProfile.Proofs.Profile.TextCodec

/-!
# Pins that are kept

What is decoded from the document of a profile has the pins of the profile, and so has what is
decoded from its text in a spaced layout, except for surrogates that are joined. The credentials may
hold anything.
-/

namespace ConnectionProfile.Profile

open Json (Layout readText)

variable {p q : Profile}

theorem decode_pins {es : List Entry} (h : (decode (.map es)).result = .ok q) :
    (decodePins es).result = .ok q.pins := by
  simp only [decode, decodeParts, requireMapping, Logged.pure_bind, Logged.bind_result_ok,
    Logged.mapError_ok, Logged.pure_result_ok] at h
  obtain ⟨_, ⟨_, _, _, _, _, _, pins, hp, rfl⟩, hc⟩ := h
  obtain ⟨_, _, _, _, _, _, _, rfl⟩ := create_ok.1 hc
  exact hp

theorem pins_of_decode_toDocument (h : (decode p.toDocument).result = .ok q) : q.pins = p.pins := by
  have hq := decode_pins h
  rw [decodePins_toEntries] at hq
  exact (Except.ok.inj hq).symm

/-- The pins of a profile as they stand in its text. -/
def pinsValue (sort : Bool) (pins : List Pin) : Value :=
  .list ((pins.map Pin.toDocument).map (Value.arranged sort))

theorem pinsValue_mapTexts (f : Text → Text) (sort : Bool) (pins : List Pin) :
    (pinsValue sort pins).mapTexts f = pinsValue sort (pins.map (Pin.mapTexts f)) := by
  simp only [pinsValue, Value.mapTexts, Value.mapTextsItems_eq_map, List.map_map]
  refine congrArg Value.list (List.map_congr_left fun p _ => ?_)
  simp only [Function.comp_apply, Pin.toDocument_mapTexts, Value.arranged_mapTexts]

theorem mem_credentialsEntry {c : Option Credentials} {e : Entry} (h : e ∈ credentialsEntry c) :
    ∃ d : Credentials, e = (.text credentialsKey, d.toDocument) := by
  cases c with
  | none => cases h
  | some d => exact ⟨d, List.mem_singleton.1 h⟩

theorem read_of_readJson {t : Text} {v : Value} (h : (readJson (.text t)).result = .ok v) :
    Json.read t = .ok v := by
  change (readJson.ofRead _ (Json.read t)).result = .ok v at h
  cases hr : Json.read t with
  | ok w =>
    rw [hr, readJson.ofRead, Logged.pure_result_ok] at h
    rw [h]
  | error e =>
    rw [hr] at h
    cases e <;> cases h

theorem isKeyword_of_mem_toEntries {e : Entry} (h : e ∈ p.toEntries) :
    ∃ k : Text, e.1 = .text k ∧ k.isKeyword = true := by
  simp only [toEntries, List.mem_append, List.mem_cons, List.not_mem_nil, or_false] at h
  obtain ((rfl | rfl) | h) | rfl := h
  · exact ⟨_, rfl, rfl⟩
  · exact ⟨_, rfl, rfl⟩
  · obtain ⟨c, rfl⟩ := mem_credentialsEntry h
    exact ⟨_, rfl, rfl⟩
  · exact ⟨_, rfl, rfl⟩

/-- What is read under a key of the text of a profile is what is read of the value there. -/
theorem read_toText {layout : Layout} (hl : layout.IsSpaced) {key t : Text} {u v w : Value}
    (hu : Entries.get? key p.toEntries = some u)
    (hv : ∀ t, Json.print layout 1 u = .ok t → Json.Reads t (.ok v))
    (ht : p.toText layout = .ok t) (hw : Json.read t = .ok w) :
    ∃ es, w = .map es ∧ Entries.get? key es = some v := by
  refine Json.read_print_map hl (fun e he => ?_) (Entries.mem_keys_of_get? hu) ht hw
  obtain ⟨l, x⟩ := e
  obtain ⟨k, rfl, hk⟩ := isKeyword_of_mem_toEntries he
  refine ⟨k, rfl, hk, ?_⟩
  rintro rfl
  rw [Entries.get?_of_mem p.keys_toEntries_nodup he] at hu
  cases hu
  exact hv

/-- What is read of the pins in the text of a profile. -/
theorem reads_print_pins {layout : Layout} (hl : layout.IsSpaced) (pins : List Pin) {t : Text}
    (ht : Json.print layout 1 (.list (pins.map Pin.toDocument)) = .ok t) :
    Json.Reads t (.ok (pinsValue layout.sortKeys
      (pins.map (Pin.mapTexts (readText layout.ascii))))) := by
  have hd := pins_isDocument pins false
  have hda : (Value.arranged layout.sortKeys (.list (pins.map Pin.toDocument))).IsDocument
    false := hd.arranged
  rw [Json.print_document layout 1 _ hd] at ht
  rw [Value.arranged, Value.arrangedItems_eq_map] at ht hda
  cases ht
  rw [← pinsValue_mapTexts]
  exact Json.reads_write hl hda 1

theorem pins_of_ofText_toText {layout : Layout} (hl : layout.IsSpaced) {t : Text}
    (ht : p.toText layout = .ok t) (hq : (ofText (.text t)).result = .ok q) :
    q.pins = p.pins.map (Pin.mapTexts (readText layout.ascii)) := by
  obtain ⟨v, hv, hq⟩ := Logged.bind_result_ok.1 hq
  obtain ⟨es, rfl, hg⟩ := read_toText hl p.get?_pinsKey (fun _ => reads_print_pins hl p.pins) ht
    (read_of_readJson hv)
  have hp := decode_pins (Logged.mapError_ok.1 hq)
  simp only [decodePins, Entries.find?, hg, pinsValue, decodePinList_arranged] at hp
  exact (Except.ok.inj hp).symm

end ConnectionProfile.Profile
