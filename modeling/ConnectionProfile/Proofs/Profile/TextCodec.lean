import ConnectionProfile.Proofs.Json.Reading
import ConnectionProfile.Proofs.Profile.Document
import ConnectionProfile.Session.Step

/-!
# Profiles as text

The text of a profile, in every layout with blanks between the tokens, decodes like the document of
the profile. So the text can take the place of the document: what the decoder makes of it, and what
it says of a profile that it refuses, is the same.
-/

namespace ConnectionProfile

-- ---------------------------------------------------------------------------
-- Texts of a profile
-- ---------------------------------------------------------------------------

/-- The text that a value is, if it is one. -/
def Value.text? : Value → Option Text
  | .text t => some t
  | _ => none

theorem Value.mapTexts_of_text? {f : Text → Text} {v : Value} (hv : v = .null ∨ ∃ t, v = .text t)
    (hf : ∀ t ∈ v.text?, f t = t) : v.mapTexts f = v := by
  obtain rfl | ⟨t, rfl⟩ := hv
  · rfl
  · rw [mapTexts, hf t rfl]

def Credentials.texts (c : Credentials) : List Text :=
  FieldName.all.filterMap fun field => (c.get field).text?

def Pin.texts (p : Pin) : List Text := [p.hostname, p.publicKeyHash]

namespace Profile

/-- Every text that a profile holds. -/
def texts (p : Profile) : List Text :=
  [p.server, p.identity].filterMap Value.text? ++ (p.credentials.map Credentials.texts).getD [] ++
    p.pins.flatMap Pin.texts

end Profile

theorem Credentials.mapTexts_eq_self {f : Text → Text} {c : Credentials} (h : c.HoldsTexts)
    (hf : ∀ t ∈ c.texts, f t = t) : c.mapTexts f = c := by
  have hfield (field : FieldName) : (c.get field).mapTexts f = c.get field := by
    have hm : field ∈ FieldName.all := by cases field <;> decide
    exact Value.mapTexts_of_text? (h field) fun t ht => hf t (List.mem_filterMap.2 ⟨field, hm, ht⟩)
  rw [mapTexts]
  congr 1
  · exact hfield .userId
  · exact hfield .homeServer
  · exact hfield .accessToken
  · exact hfield .deviceId
  · exact hfield .refreshToken

theorem Pin.mapTexts_eq_self {f : Text → Text} {p : Pin} (hf : ∀ t ∈ p.texts, f t = t) :
    p.mapTexts f = p := by
  simp only [texts, List.mem_cons, List.not_mem_nil, or_false, forall_eq_or_imp, forall_eq] at hf
  rw [mapTexts, hf.1, hf.2]

namespace Profile

variable {p : Profile} {options : List Entry}

/-- A change that spares the texts of a profile spares the profile. -/
theorem mapTexts_eq_self {f : Text → Text} (ha : p.HasTextAddresses) (hc : p.HoldsTexts)
    (hf : ∀ t ∈ p.texts, f t = t) : p.mapTexts f = p := by
  obtain ⟨⟨s, hs⟩, hi⟩ := ha
  have haddress (v : Value) (hv : v ∈ [p.server, p.identity]) :
      ∀ t ∈ v.text?, f t = t := fun t ht => by
    refine hf t (List.mem_append_left _ (List.mem_append_left _ ?_))
    exact List.mem_filterMap.2 ⟨v, hv, ht⟩
  have hcredentials : p.credentials.map (Credentials.mapTexts f) = p.credentials := by
    cases h : p.credentials with
    | none => rfl
    | some c =>
      rw [Option.map_some, Credentials.mapTexts_eq_self (hc c h)]
      exact fun t ht => hf t (by simp [texts, h, ht])
  have hpins : p.pins.map (Pin.mapTexts f) = p.pins := by
    refine (List.map_congr_left fun pin hpin => ?_).trans (List.map_id _)
    refine Pin.mapTexts_eq_self fun t ht => hf t (List.mem_append_right _ ?_)
    exact List.mem_flatMap.2 ⟨pin, hpin, ht⟩
  rw [mapTexts, hcredentials, hpins,
    Value.mapTexts_of_text? (.inr ⟨s, hs⟩) (haddress p.server (by simp)),
    Value.mapTexts_of_text? hi (haddress p.identity (by simp))]

-- ---------------------------------------------------------------------------
-- Written and read
-- ---------------------------------------------------------------------------

theorem toDocument_isDocument_of_holdsTexts (hc : p.HoldsTexts) :
    p.toDocument.IsDocument true := by
  apply toDocument_isDocument
  intro c h
  apply Credentials.toDocument_isDocument
  intro e he
  obtain ⟨field, rfl⟩ := Credentials.mem_toEntries he
  obtain hf | ⟨t, hf⟩ := hc c h field <;> simp only [Credentials.entry, hf, Value.IsDocument]

/-- The octets of a written document are read back as its text. -/
theorem textOfOctets?_write (layout : Json.Layout) (p : Profile) (sort : Bool) {bs : Octets}
    (h : Utf8.encode? (Json.write layout 0 (p.toDocument.arranged sort)) = some bs) :
    Json.textOfOctets? bs = some (Json.write layout 0 (p.toDocument.arranged sort)) := by
  have hne : Entries.arrange sort (Value.arrangedMembers sort p.toEntries) ≠ [] :=
    Entries.arrange_ne_nil (by simp [Value.arrangedMembers_eq_map, toEntries])
  obtain ⟨d, t, hw, hd⟩ := Json.write_map_start layout 0 hne
  rw [toDocument, Value.arranged, hw] at h ⊢
  exact Json.textOfOctets?_encode? ⟨rfl, by decide⟩ hd h

/-- What is read from the text in a spaced layout. -/
theorem readJson_toText {layout : Json.Layout} (hl : layout.IsSpaced) (ha : p.HasTextAddresses)
    (hc : p.HoldsTexts) (hp : layout.ascii = true → ∀ t ∈ p.texts, Wide.HasNoPairs t) :
    ∃ t, p.toText layout = .ok t ∧
      readJson (.text t) = pure (p.toDocument.arranged layout.sortKeys) ∧
      ∀ bs, Utf8.encode? t = some bs →
        readJson (.octets bs) = pure (p.toDocument.arranged layout.sortKeys) := by
  have hd := toDocument_isDocument_of_holdsTexts hc
  have hda : (p.toDocument.arranged layout.sortKeys).IsDocument true := hd.arranged
  have hsame : ∀ t ∈ p.texts, Json.readText layout.ascii t = t := by
    intro t ht
    cases h : layout.ascii with
    | true => exact Wide.joinPairs_of_hasNoPairs (hp h t ht)
    | false => rfl
  have hread := Json.read_write hl hda 0
  rw [← Value.arranged_mapTexts, ← toDocument_mapTexts _ ha,
    mapTexts_eq_self ha hc hsame] at hread
  refine ⟨_, Json.print_document layout 0 _ hd, ?_, ?_⟩
  · simp only [readJson, hread, readJson.ofRead]
  · intro bs hbs
    simp only [readJson, textOfOctets?_write layout p layout.sortKeys hbs, hread, readJson.ofRead]

theorem hasDocument_of_hasTextAddresses (ha : p.HasTextAddresses) : p.hasDocument = true := by
  obtain ⟨⟨s, hs⟩, hi⟩ := ha
  obtain hi | ⟨i, hi⟩ := hi <;> simp [hasDocument, effectiveIdentity, hs, hi, Value.isNull,
    Value.isWritable]

section
variable {options : List Entry}

theorem encodeText_of_ofOptions {layout : Json.Layout} (hd : p.hasDocument = true)
    (h : Json.Layout.ofOptions options = .ok layout) :
    Session.encodeText p options = (p.toText layout).mapError .print := by
  rw [Session.encodeText, Session.encode, if_pos hd, h]
  rfl

theorem encodeText_indentTooLarge (hd : p.hasDocument = true)
    (h : Json.Layout.ofOptions options = .error .indentTooLarge) :
    Session.encodeText p options = .error (.layout .indentTooLarge) := by
  rw [Session.encodeText, Session.encode, if_pos hd, h]
  rfl

/-- What has a text has a document, and a layout in which the text is printed. -/
theorem encodeText_ok {t : Text} : Session.encodeText p options = .ok t ↔
    p.hasDocument = true ∧
      ∃ layout, Json.Layout.ofOptions options = .ok layout ∧ p.toText layout = .ok t := by
  by_cases hd : p.hasDocument = true
  · cases ho : Json.Layout.ofOptions options with
    | ok layout => simp [encodeText_of_ofOptions hd ho, Except.mapError_ok, hd]
    | error e =>
      simp only [Session.encodeText, Session.encode, if_pos hd, ho, reduceCtorEq, false_and,
        exists_false, and_false, iff_false, Except.bind_ok, not_exists, not_and]
      rintro _ -
      cases e <;> simp [Except.bind_ok, throw, throwThe, MonadExceptOf.throw]
  · simp [Session.encodeText, Session.encode, hd, Except.bind_ok]

end

/-- Under options that only space, sort or escape, a profile has a text, and the text decodes with
the outcome of the document, be it given as it is or by its octets. The only options of this kind
without a text are those that indent by an integer beyond sixty-four bits. -/
theorem ofText_encodeText (ha : p.HasTextAddresses) (hc : p.HoldsTexts)
    (ho : Json.Layout.AreSpacing options)
    (hp : Json.Layout.asksAscii options = true → ∀ t ∈ p.texts, Wide.HasNoPairs t) :
    (Json.Layout.IndentFits options → ∃ t, Session.encodeText p options = .ok t ∧
      ofText (.text t) = (decode p.toDocument).mapError .profile ∧
      ∀ bs, Utf8.encode? t = some bs →
        ofText (.octets bs) = (decode p.toDocument).mapError .profile) ∧
    (¬Json.Layout.IndentFits options →
      Session.encodeText p options = .error (.layout .indentTooLarge)) := by
  constructor
  · intro hi
    obtain ⟨layout, hlayout, hl, hascii⟩ := Json.Layout.ofOptions_ok ho hi
    obtain ⟨t, ht, hr, hb⟩ := readJson_toText hl ha hc (by rwa [hascii])
    refine ⟨t, ?_, ?_, fun bs hbs => ?_⟩
    · rw [encodeText_of_ofOptions (hasDocument_of_hasTextAddresses ha) hlayout, ht]
      rfl
    · rw [ofText, hr, Logged.pure_bind, decode_arranged hc]
    · rw [ofText, hb bs hbs, Logged.pure_bind, decode_arranged hc]
  · intro hi
    exact encodeText_indentTooLarge (hasDocument_of_hasTextAddresses ha)
      (Json.Layout.ofOptions_indentTooLarge ho hi)

theorem ofText_encodeText_tabs :
    ∃ t, Session.encodeText
        ⟨.text "http://a", .null, some ⟨.text "u", .null, .null, .null, .null⟩, []⟩
        [(.text "indent", .int (-1)), (.text "separators", .pair (.text ",\t") (.text ":"))] =
          .ok t ∧
      (ofText (.text t)).result = .error (.profile (.decode (.credentials .invalidFormat))) := by
  have ha : HasTextAddresses
      ⟨.text "http://a", .null, some ⟨.text "u", .null, .null, .null, .null⟩, []⟩ :=
    ⟨⟨_, rfl⟩, .inl rfl⟩
  have hc : HoldsTexts
      ⟨.text "http://a", .null, some ⟨.text "u", .null, .null, .null, .null⟩, []⟩ := by
    rintro _ ⟨⟩ field
    cases field with
    | userId => exact .inr ⟨_, rfl⟩
    | _ => exact .inl rfl
  have ho : Json.Layout.AreSpacing
      [(.text "indent", .int (-1)), (.text "separators", .pair (.text ",\t") (.text ":"))] := by
    refine ⟨?_, ?_, ?_⟩
    · simp +decide [Entries.keys, Json.Layout.spacingNames]
    · rintro _ ⟨⟩
      exact .inr (.inr (.inl ⟨_, rfl⟩))
    · rintro _ ⟨⟩
      exact ⟨_, _, rfl, ⟨[], ['\t'], rfl, by decide, by decide⟩,
        ⟨[], [], rfl, by decide, by decide⟩⟩
  have hp (t : Text) (ht : t ∈ texts
      ⟨.text "http://a", .null, some ⟨.text "u", .null, .null, .null, .null⟩, []⟩) :
      Wide.HasNoPairs t := by
    revert t
    decide
  obtain ⟨t, ht, hr, -⟩ := (ofText_encodeText ha hc ho fun _ => hp).1 (by rintro _ ⟨⟩; decide)
  exact ⟨t, ht, by rw [hr]; rfl⟩

/-- No text is as long as the indentation would have to be. -/
theorem encodeText_beyond_sixtyFour_bits :
    ∃ p q : Profile, (create (.text "http://a") .null none []).result = .ok p ∧
      (decode p.toDocument).result = .ok q ∧
      Session.encodeText p [(.text "indent", .int 9223372036854775808)] =
        .error (.layout .indentTooLarge) :=
  ⟨_, _, rfl, rfl, rfl⟩

end Profile

end ConnectionProfile
