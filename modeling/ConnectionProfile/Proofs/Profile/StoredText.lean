import ConnectionProfile.Proofs.Json.Layout
import ConnectionProfile.Proofs.Profile.TextCodec
import ConnectionProfile.Proofs.Value.Equality
import ConnectionProfile.Proofs.Yaml.Document
import ConnectionProfile.Stored

/-!
# Texts of profiles in stored documents

A profile is written as JSON and stored, and the store is loaded as YAML. Without code points beyond
sixteen bits, which would come back as two, the loaded document is that of the profile.
-/

namespace ConnectionProfile

-- ---------------------------------------------------------------------------
-- The layout
-- ---------------------------------------------------------------------------

namespace Json.Layout

/-- Options that say how far to indent, if at all, and whether to sort. -/
def storing (indent : Option Int) (sort : Bool) : List Entry :=
  [(.text "indent", (indent.map .int).getD .null), (.text "sort_keys", .bool sort)]

variable {indent : Option Int} {sort : Bool}

theorem get?_storing : Entries.get? "indent" (storing indent sort) =
    some ((indent.map .int).getD .null) := rfl

theorem areSpacing_storing : AreSpacing (storing indent sort) where
  names := by simp +decide [storing, Entries.keys, spacingNames]
  indent := by
    rintro _ ⟨⟩
    cases indent with
    | none => exact .inl rfl
    | some i => exact .inr (.inr (.inl ⟨i, rfl⟩))
  separators := nofun

theorem indentFits_storing : IndentFits (storing indent sort) ↔
    ∀ i ∈ indent, -indentLimit ≤ i ∧ i < indentLimit := by
  cases indent <;> simp [IndentFits, get?_storing]

theorem isFlow_spacing {step : Option Text} (hs : ∀ t ∈ step, Yaml.IsGap t) :
    (spacing (storing indent sort) none step).IsFlow where
  ascii := rfl
  indent := hs
  item := by
    cases step with
    | none => exact ⟨" ", rfl, by decide⟩
    | some _ => exact ⟨[], rfl, by decide⟩
  key := ⟨" ", rfl, by decide⟩

/-- The layout is one that YAML can read, unless no text is as long as the indentation. -/
theorem ofOptions_storing (sort : Bool) (hi : ∀ i ∈ indent, -indentLimit ≤ i ∧ i < indentLimit) :
    ∃ layout, ofOptions (storing indent sort) = .ok layout ∧ layout.IsFlow ∧
      layout.sortKeys = sort := by
  obtain ⟨step, hstep, hgap⟩ : ∃ step, indentOf ((indent.map .int).getD .null) = .ok step ∧
      ∀ t ∈ step, Yaml.IsGap t := by
    cases indent with
    | none => exact ⟨none, rfl, nofun⟩
    | some i =>
      have hfit := hi i rfl
      refine ⟨some (List.replicate i.toNat ' '), if_neg (by omega), ?_⟩
      rintro _ ⟨⟩ c hc
      exact .inl (List.eq_of_mem_replicate hc)
  refine ⟨spacing (storing indent sort) none step, ?_, isFlow_spacing hgap, rfl⟩
  rw [@AreSpacing.ofOptions_eq _ areSpacing_storing none rfl, get?_storing, Option.getD_some, hstep]
  rfl

end Json.Layout

-- ---------------------------------------------------------------------------
-- The loaded document
-- ---------------------------------------------------------------------------

namespace Profile

variable {p : Profile} {layout : Json.Layout}

/-- No text of the profile has a code point beyond sixteen bits. -/
def IsNarrow (p : Profile) : Prop := ∀ t ∈ p.texts, ∀ c ∈ t, c.val < 0x10000

instance (p : Profile) : Decidable p.IsNarrow :=
  have (t : Text) : Decidable (∀ c ∈ t, c.val < 0x10000) := List.decidableBAll _ t
  List.decidableBAll _ p.texts

/-- A text in a layout for YAML is loaded as the document, with its members as they were written. -/
theorem ofOctets_toText (hl : layout.IsFlow) (ha : p.HasTextAddresses)
    (hc : p.HasValidatedCredentials) (hn : p.IsNarrow) :
    ∃ t file, p.toText layout = .ok t ∧ Utf8.encode? t = some file ∧
      ∃ entries, Stored.ofOctets file = .ok entries ∧
        .map entries = p.toDocument.arranged layout.sortKeys := by
  have hd : p.toDocument.IsDocument false :=
    toDocument_isDocument fun c h => (hc c h).toDocument_isDocument
  have hda : (p.toDocument.arranged layout.sortKeys).IsDocument false := hd.arranged
  obtain ⟨file, hf, hr⟩ := Yaml.read_write hl hda Yaml.isGap_nil
  rw [List.append_nil] at hf
  have hh : p.mapTexts Wide.halves = p :=
    mapTexts_eq_self ha hc.holdsTexts fun t ht => Wide.halves_of_lt (hn t ht)
  rw [← Value.arranged_mapTexts, ← toDocument_mapTexts _ ha, hh] at hr
  refine ⟨_, file, Json.print_document layout 0 _ hd, hf, _, ?_, rfl⟩
  rw [Stored.ofOctets, hr]
  rfl

/-- A text that a profile is written as, with or without indentation and sorted or not, is loaded
again as the document of the profile. Only an indentation by an integer beyond sixty-four bits has
no text. -/
theorem load_encodeText (ha : p.HasTextAddresses) (hc : p.HasValidatedCredentials)
    (hn : p.IsNarrow) (indent : Option Int) (sort : Bool) :
    ((∀ i ∈ indent, -Json.Layout.indentLimit ≤ i ∧ i < Json.Layout.indentLimit) →
      ∃ t file, Session.encodeText p (Json.Layout.storing indent sort) = .ok t ∧
        Utf8.encode? t = some file ∧
        ∀ (read : Path → Except ReadProblem Octets) (path : Path), read path = .ok file →
          ∃ entries, Stored.load read path = .ok entries ∧
            (Value.map entries).Equals p.toDocument) ∧
    (¬(∀ i ∈ indent, -Json.Layout.indentLimit ≤ i ∧ i < Json.Layout.indentLimit) →
      Session.encodeText p (Json.Layout.storing indent sort) =
        .error (.layout .indentTooLarge)) := by
  constructor
  · intro hi
    obtain ⟨layout, hlayout, hl, -⟩ := Json.Layout.ofOptions_storing sort hi
    obtain ⟨t, file, ht, hf, entries, he, hd⟩ := ofOctets_toText hl ha hc hn
    refine ⟨t, file, ?_, hf, fun read path hr => ⟨entries, ?_, ?_⟩⟩
    · rw [encodeText_of_ofOptions (hasDocument_of_hasTextAddresses ha) hlayout, ht]
      rfl
    · rw [Stored.load, hr]
      exact he
    · rw [hd]
      exact Value.equals_arranged _ _
  · intro hi
    exact encodeText_indentTooLarge (hasDocument_of_hasTextAddresses ha)
      (Json.Layout.ofOptions_indentTooLarge Json.Layout.areSpacing_storing
        (mt Json.Layout.indentFits_storing.1 hi))

/-- Texts that look like something else when they are not quoted. -/
theorem load_encodeText_lookalikes :
    ∃ t file, Session.encodeText ⟨.text "http://a", .null,
        some (.ofTexts "no" "~" "0x1F" none "2001-99-99"), [⟨"<<", "---"⟩]⟩
          (Json.Layout.storing (some (-1)) true) = .ok t ∧ Utf8.encode? t = some file ∧
      ∃ entries, Stored.load (fun _ => .ok file) (.ofText "c.json") = .ok entries ∧
        (Value.map entries).Equals (toDocument ⟨.text "http://a", .null,
          some (.ofTexts "no" "~" "0x1F" none "2001-99-99"), [⟨"<<", "---"⟩]⟩) := by
  have ha : HasTextAddresses ⟨.text "http://a", .null,
      some (.ofTexts "no" "~" "0x1F" none "2001-99-99"), [⟨"<<", "---"⟩]⟩ := ⟨⟨_, rfl⟩, .inl rfl⟩
  have hc : HasValidatedCredentials ⟨.text "http://a", .null,
      some (.ofTexts "no" "~" "0x1F" none "2001-99-99"), [⟨"<<", "---"⟩]⟩ := by
    rintro _ ⟨⟩
    exact ⟨_, _, _, _, _, rfl⟩
  obtain ⟨t, file, ht, hf, h⟩ := (load_encodeText ha hc (by decide) (some (-1)) true).1
    (by rintro _ ⟨⟩; decide)
  exact ⟨t, file, ht, hf, h _ _ rfl⟩

theorem encodeText_below_sixtyFour_bits :
    ∃ p : Profile, (create (.text "http://a") .null none []).result = .ok p ∧
      p.HasTextAddresses ∧ p.HasValidatedCredentials ∧ p.IsNarrow ∧
      Session.encodeText p (Json.Layout.storing (some (-9223372036854775809)) false) =
        .error (.layout .indentTooLarge) :=
  ⟨_, rfl, ⟨⟨_, rfl⟩, .inl rfl⟩, nofun, by decide, rfl⟩

end Profile

end ConnectionProfile
