import ConnectionProfile.Proofs.Profile.Complaints
import ConnectionProfile.Proofs.Profile.Forms
import ConnectionProfile.Proofs.Value.Rewording

/-!
# Reworded documents

Decoding does not see the order of the members of a mapping, nor those under unknown keys, nor
whether an optional key is absent or holds null: at the top, in credentials and in every pin. One
such change leaves alone what is decoded, the records, the errors and what these are told, and so
any number of changes does (`decode_alike`).
-/

namespace ConnectionProfile

open Overrides (stored)

/-- No two values are taken for the same. -/
def Form.noneSame (_ : Text) (_ _ : Value) : Prop := False

variable {es fs : List Entry}

-- ---------------------------------------------------------------------------
-- Pins
-- ---------------------------------------------------------------------------

namespace Pin

theorem get?_rewords (h : form.Rewords Form.noneSame es fs) (key : Text)
    (hk : key ∈ form.required) : Entries.get? key es = Entries.get? key fs :=
  (h.under _ (List.mem_append_left _ hk)).eq_of_required nofun fun _ _ => id

theorem decode_rewords (h : form.Rewords Form.noneSame es fs) :
    decode (.map es) = decode (.map fs) := by
  have hn := get?_rewords h hostnameKey (by simp [form])
  have hh := get?_rewords h hashKey (by simp [form])
  simp only [decode, require, hn, hh]

theorem told_rewords (h : form.Rewords Form.noneSame es fs) :
    told (.map es) = told (.map fs) := by
  have hn := get?_rewords h hostnameKey (by simp [form])
  have hh := get?_rewords h hashKey (by simp [form])
  have hc : complaints es = complaints fs := by
    have hkey (field : Text) : Entries.get? (keyOf field) es = Entries.get? (keyOf field) fs := by
      rw [keyOf]
      split <;> assumption
    simp only [complaints, hn, hh, hkey]
  simp only [told, decode_rewords h, hc]

/-- The pins are the same, or they are stored in mappings that are alike. -/
abbrev Same : Value → Value → Prop := form.SameValue Form.noneSame

theorem Same.decode_eq {v w : Value} (h : Same v w) : decode v = decode w := by
  cases h with
  | refl => rfl
  | map h => exact h.congr fun _ _ => decode_rewords

theorem Same.told_eq {v w : Value} (h : Same v w) : told v = told w := by
  cases h with
  | refl => rfl
  | map h => exact h.congr fun _ _ => told_rewords

theorem toldOfFirst_congr {vs ws : List Value} (h : List.Forall₂ Same vs ws) :
    toldOfFirst vs = toldOfFirst ws := by
  induction h with
  | nil => rfl
  | cons hv _ ih => simp only [toldOfFirst, hv.decode_eq, hv.told_eq, ih]

end Pin

-- ---------------------------------------------------------------------------
-- Credentials
-- ---------------------------------------------------------------------------

namespace Credentials

theorem get?_rewords (h : form.Rewords Form.noneSame es fs) (field : FieldName)
    (hr : field.key ∈ form.required) (ho : field.key ∉ form.optional) :
    Entries.get? field.key es = Entries.get? field.key fs :=
  (h.under _ (List.mem_append_left _ hr)).eq_of_required ho fun _ _ => id

theorem optional_rewords (h : form.Rewords Form.noneSame es fs) (field : FieldName)
    (hk : field.key ∈ form.optional) : Field.optional Field.text (Entries.get? field.key es) =
      Field.optional Field.text (Entries.get? field.key fs) :=
  (h.under _ (List.mem_append_right _ hk)).optional_eq (fun _ _ => id) _

theorem complaint_under {key : Text} {o p : Option Value} (h : form.Under Form.noneSame key o p)
    (field : FieldName) : complaint field (Field.optional Field.text) o =
      complaint field (Field.optional Field.text) p := by
  cases h with
  | kept => rfl
  | exchanged h => exact h.elim
  | null => rfl

theorem ofFields_rewords (h : form.Rewords Form.noneSame es fs) : ofFields es = ofFields fs := by
  have hu := get?_rewords h .userId (by simp [form]) (by decide)
  have hh := get?_rewords h .homeServer (by simp [form]) (by decide)
  have ha := get?_rewords h .accessToken (by simp [form]) (by decide)
  have hd := optional_rewords h .deviceId (by simp [form])
  have hr := optional_rewords h .refreshToken (by simp [form])
  simp only [ofFields, check, hu, hh, ha, hd, hr]

theorem complaints_rewords (h : form.Rewords Form.noneSame es fs) :
    complaints es = complaints fs := by
  rw [complaints_eq, complaints_eq]
  congr 1
  · refine List.flatMap_congr fun field hf => ?_
    have hk : field.key ∈ form.required ∧ field.key ∉ form.optional := by
      revert hf
      cases field <;> decide
    rw [get?_rewords h field hk.1 hk.2]
  · refine List.flatMap_congr fun field hf => ?_
    have hk : field.key ∈ form.optional := by
      revert hf
      cases field <;> decide
    exact complaint_under (h.under _ (List.mem_append_right _ hk)) field

theorem decode_rewords (h : form.Rewords Form.noneSame es fs) :
    decode (.map es) = decode (.map fs) := by
  have hu := get?_rewords h .userId (by simp [form]) (by decide)
  have hh := get?_rewords h .homeServer (by simp [form]) (by decide)
  have ha := get?_rewords h .accessToken (by simp [form]) (by decide)
  simp only [decode, require, hu, hh, ha, ofFields_rewords h]

theorem told_rewords (h : form.Rewords Form.noneSame es fs) :
    told (.map es) = told (.map fs) := by
  simp only [told, decode_rewords h, complaints_rewords h]

/-- The credentials are the same, or they are stored in mappings that are alike. -/
abbrev Same : Value → Value → Prop := form.SameValue Form.noneSame

theorem Same.told_eq {v w : Value} (h : Same v w) : told v = told w := by
  cases h with
  | refl => rfl
  | map h => exact h.congr fun _ _ => told_rewords

end Credentials

-- ---------------------------------------------------------------------------
-- Profiles
-- ---------------------------------------------------------------------------

namespace Profile

def form : Form where
  required := [serverKey]
  optional := [identityKey, credentialsKey, pinsKey]

/-- Credentials and pins are taken for the same when their mappings are alike. -/
inductive SamePart : Text → Value → Value → Prop
  | credentials {es fs : List Entry} (h : Credentials.form.Alike Form.noneSame es fs) :
    SamePart credentialsKey (.map es) (.map fs)
  | pins {vs ws : List Value} (h : List.Forall₂ Pin.Same vs ws) :
    SamePart pinsKey (.list vs) (.list ws)

theorem SamePart.key_eq {key : Text} {v w : Value} (h : SamePart key v w) :
    key = credentialsKey ∨ key = pinsKey := by
  cases h with
  | credentials => exact .inl rfl
  | pins => exact .inr rfl

theorem decodePinList_congr {vs ws : List Value} (h : List.Forall₂ Pin.Same vs ws) :
    decodePinList vs = decodePinList ws := by
  induction h with
  | nil => rfl
  | cons hv _ ih => simp only [decodePinList, hv.decode_eq, ih]

theorem decodeServer_rewords (h : form.Rewords SamePart es fs) :
    decodeServer es = decodeServer fs := by
  have hu := h.under serverKey (by simp [form])
  have hs := hu.eq_of_required (by decide) fun _ _ h => absurd h.key_eq (by decide)
  simp only [decodeServer, hs]

theorem decodeIdentity_rewords (h : form.Rewords SamePart es fs) :
    decodeIdentity es = decodeIdentity fs := by
  have hs := (h.stored identityKey (by simp [form])).resolve_right fun h =>
    absurd h.key_eq (by decide)
  rw [decodeIdentity, decodeIdentity, Entries.find?_eq, Entries.find?_eq, hs]

theorem stored_credentials_rewords (h : form.Rewords SamePart es fs) :
    Credentials.Same (stored credentialsKey es) (stored credentialsKey fs) := by
  obtain hs | hs := h.stored credentialsKey (by simp [form])
  · rw [hs]
    exact .refl _
  · revert hs
    generalize stored credentialsKey es = v
    generalize stored credentialsKey fs = w
    intro hs
    cases hs with
    | credentials h => exact .map h

theorem stored_pins_rewords (h : form.Rewords SamePart es fs) :
    stored pinsKey es = stored pinsKey fs ∨ ∃ vs ws, stored pinsKey es = .list vs ∧
      stored pinsKey fs = .list ws ∧ List.Forall₂ Pin.Same vs ws := by
  obtain hs | hs := h.stored pinsKey (by simp [form])
  · exact .inl hs
  · revert hs
    generalize stored pinsKey es = v
    generalize stored pinsKey fs = w
    intro hs
    cases hs with
    | pins h => exact .inr ⟨_, _, rfl, rfl, h⟩

theorem decodeCredentials_rewords (h : form.Rewords SamePart es fs) :
    decodeCredentials es = decodeCredentials fs := by
  have hs := stored_credentials_rewords h
  rw [decodeCredentials, decodeCredentials, Entries.find?_eq, Entries.find?_eq]
  revert hs
  generalize stored credentialsKey es = v
  generalize stored credentialsKey fs = w
  intro hs
  cases hs with
  | refl => rfl
  | map h => simp only [reduceCtorEq, if_false, h.congr fun _ _ => Credentials.decode_rewords]

theorem decodePins_rewords (h : form.Rewords SamePart es fs) : decodePins es = decodePins fs := by
  rw [decodePins, decodePins, Entries.find?_eq, Entries.find?_eq]
  obtain hs | ⟨vs, ws, hv, hw, h⟩ := stored_pins_rewords h
  · rw [hs]
  · rw [hv, hw]
    exact decodePinList_congr h

theorem decodeParts_rewords (h : form.Rewords SamePart es fs) :
    decodeParts (.map es) = decodeParts (.map fs) :=
  decodeParts_congr (decodeServer_rewords h) (decodeIdentity_rewords h)
    (decodeCredentials_rewords h) (decodePins_rewords h)

theorem told_rewords (h : form.Rewords SamePart es fs) : told (.map es) = told (.map fs) := by
  have hp : Pin.toldOfFirst (stored pinsKey es).items =
      Pin.toldOfFirst (stored pinsKey fs).items := by
    obtain hs | ⟨vs, ws, hv, hw, h⟩ := stored_pins_rewords h
    · rw [hs]
    · rw [hv, hw]
      exact Pin.toldOfFirst_congr h
  simp only [told, decodeParts_rewords h, (stored_credentials_rewords h).told_eq, hp]

/-- Documents that are alike decode alike: to the same profile, or with the same error, and with the
same records, which are told the same. -/
theorem decode_alike (h : form.Alike SamePart es fs) :
    decode (.map es) = decode (.map fs) ∧ told (.map es) = told (.map fs) :=
  ⟨h.congr fun _ _ h => decode_congr (decodeParts_rewords h), h.congr fun _ _ => told_rewords⟩

/-- A document with nulls under optional keys. -/
def withNulls : List Entry :=
  [(.text serverKey, .text "https://a/"),
    (.text credentialsKey, .map [(.text "user_id", .text "u"), (.text "home_server", .text "h"),
      (.text "access_token", .text "t"), (.text "device_id", .null)]),
    (.text pinsKey, .list [.map [(.text Pin.hostnameKey, .text "h"),
      (.text Pin.hashKey, .text "k")]]),
    (.text "x", .int 1), (.text identityKey, .null)]

/-- The same without the nulls, in another order and with unknown keys at other places. -/
def withUnknowns : List Entry :=
  [(.text pinsKey, .list [.map [(.text "y", .null), (.text Pin.hashKey, .text "k"),
      (.text Pin.hostnameKey, .text "h")]]),
    (.text credentialsKey, .map [(.text "z", .list []), (.text "access_token", .text "t"),
      (.text "home_server", .text "h"), (.text "user_id", .text "u")]),
    (.text serverKey, .text "https://a/")]

theorem decode_alike_with_unknowns :
    (decode (.map withNulls)).result = .ok ⟨.text "https://a", .null,
      some (.ofTexts "u" "h" "t" none none), [⟨"h", "k"⟩]⟩ ∧
    decode (.map withNulls) = decode (.map withUnknowns) ∧
      told (.map withNulls) = told (.map withUnknowns) := by
  have hc : Credentials.form.Alike Form.noneSame
      [(.text "user_id", .text "u"), (.text "home_server", .text "h"),
        (.text "access_token", .text "t"), (.text "device_id", .null)]
      [(.text "z", .list []), (.text "access_token", .text "t"),
        (.text "home_server", .text "h"), (.text "user_id", .text "u")] :=
    .trans _ _ _ (.rel _ _ (.reorder (by simp +decide [Entries.keys]) (List.reverse_perm _).symm))
      (.trans _ _ _ (.symm _ _ (.rel _ _ (.addNull (by decide) rfl)))
        (.rel _ _ (.addUnknown (by simp +decide [Credentials.form]) _ _)))
  have hp : Pin.Same (.map [(.text Pin.hostnameKey, .text "h"), (.text Pin.hashKey, .text "k")])
      (.map [(.text "y", .null), (.text Pin.hashKey, .text "k"),
        (.text Pin.hostnameKey, .text "h")]) :=
    .map (.trans _ _ _
      (.rel _ _ (.reorder (by simp +decide [Entries.keys]) (List.reverse_perm _).symm))
      (.rel _ _ (.addUnknown (by simp +decide [Pin.form]) _ _)))
  have h : form.Alike SamePart withNulls withUnknowns :=
    .trans _ _ _ (.rel _ _ (.exchange (.credentials hc) [_] _))
      (.trans _ _ _ (.rel _ _ (.exchange (.pins (.cons hp .nil)) [_, _] _))
        (.trans _ _ _
          (.rel _ _ (.reorder (by simp +decide [Entries.keys]) (List.reverse_perm _).symm))
          (.trans _ _ _ (.symm _ _ (.rel _ _ (.addNull (by decide) rfl)))
            (.symm _ _ (.rel _ _ (.addUnknown (by simp +decide [form]) _ _))))))
  exact ⟨rfl, decode_alike h⟩

end Profile

end ConnectionProfile
