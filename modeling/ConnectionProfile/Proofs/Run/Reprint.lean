import ConnectionProfile.Proofs.Json.Reading
import ConnectionProfile.Proofs.Overrides
import ConnectionProfile.Proofs.Profile.Halves
import ConnectionProfile.Proofs.Run.Ending
import ConnectionProfile.Proofs.Yaml.Document

/-!
# The output read again

What a run prints can be given to the program as a stored document, and it is printed once more
as it is. The document is written as JSON for ASCII but loaded as YAML, which leaves the surrogates
of a code point apart: the profile of the second run has halves where the first one has whole code
points, and both are written alike.
-/

namespace ConnectionProfile.Run

open Profile (HasValidatedCredentials HasTextAddresses IsNew)

theorem layout_isSpaced : layout.IsSpaced where
  indent := by rintro _ ⟨⟩; decide
  item := ⟨[], [], rfl, by decide, by decide⟩
  key := ⟨[], " ", rfl, by decide, by decide⟩

theorem layout_isFlow : layout.IsFlow where
  ascii := rfl
  indent := by rintro _ ⟨⟩; decide
  item := ⟨[], rfl, by decide⟩
  key := ⟨" ", rfl, by decide⟩

-- ---------------------------------------------------------------------------
-- The output
-- ---------------------------------------------------------------------------

/-- The output for a profile. -/
def printed (p : Profile) : Text := Json.write layout 0 (p.toDocument.arranged true) ++ "\n"

section
variable {p : Profile}

theorem isDocument_arranged (hc : p.HasValidatedCredentials) :
    (p.toDocument.arranged true).IsDocument false :=
  (Profile.toDocument_isDocument fun c h => (hc c h).toDocument_isDocument).arranged

theorem render_validated (hc : p.HasValidatedCredentials) : render p = .ok (printed p) := by
  have hd := Profile.toDocument_isDocument fun c h => (hc c h).toDocument_isDocument
  exact render_ok.2 ⟨_, Json.print_document layout 0 _ hd, rfl⟩

/-- A decoded profile has credentials as a check makes them, or none. -/
theorem resolve_validated {read : Path → Except ReadProblem Octets} {o : Options}
    {token : Option Text} (h : (resolve read o token).result = .ok p) :
    p.HasValidatedCredentials := by
  obtain ⟨_, _, -, -, hp⟩ := resolve_ok.1 h
  exact Profile.hasValidatedCredentials_of_decode hp

theorem isNew_of_resolve {read : Path → Except ReadProblem Octets} {o : Options}
    {token : Option Text} (h : (resolve read o token).result = .ok p) : p.IsNew := by
  obtain ⟨_, _, -, -, hp⟩ := resolve_ok.1 h
  exact .decoded hp

theorem printed_congr {q : Profile} (h : p.toDocument = q.toDocument) : printed p = printed q := by
  rw [printed, h, printed]

theorem printed_halves (ha : p.HasTextAddresses) :
    printed (p.mapTexts Wide.halves) = printed p := by
  have hq (t : Text) : Json.quote layout.ascii (Wide.halves t) = Json.quote layout.ascii t :=
    Json.quote_halves t
  rw [printed, Profile.toDocument_mapTexts _ ha, Value.arranged_mapTexts,
    Json.write_mapTexts hq, printed]

theorem read_printed (hc : p.HasValidatedCredentials) :
    Json.read (printed p) = .ok ((p.toDocument.arranged true).mapTexts Wide.joinPairs) := by
  have hg : Json.IsSpaces "\n" := by decide
  exact Json.read_write_spaces layout_isSpaced (isDocument_arranged hc) 0 hg

theorem ofOctets_printed (ha : p.HasTextAddresses) (hc : p.HasValidatedCredentials) :
    ∃ file, Utf8.encode? (printed p) = some file ∧ ∃ entries, Stored.ofOctets file = .ok entries ∧
      .map entries = (p.mapTexts Wide.halves).toDocument.arranged true := by
  have hg : Yaml.IsGap "\n" := by decide
  obtain ⟨file, hf, hr⟩ := Yaml.read_write layout_isFlow (isDocument_arranged hc) hg
  rw [← Value.arranged_mapTexts, ← Profile.toDocument_mapTexts _ ha] at hr
  refine ⟨file, hf, _, ?_, rfl⟩
  rw [Stored.ofOctets, hr]
  rfl

end

/-- A document without code points beyond sixteen bits can be stored in a file. -/
theorem exists_file {document : List Entry} (hd : (Value.map document).IsDocument false)
    (hh : (Value.map document).mapTexts Wide.halves = .map document) :
    ∃ file, Stored.ofOctets file = .ok document := by
  have hg : Yaml.IsGap [] := by decide
  obtain ⟨file, -, hr⟩ := Yaml.read_write layout_isFlow hd hg
  refine ⟨file, ?_⟩
  rw [Stored.ofOctets, hr, hh]

-- ---------------------------------------------------------------------------
-- Addresses in the output
-- ---------------------------------------------------------------------------

/-- The output is a document with these two addresses. -/
def Shows (output s i : Text) : Prop :=
  ∃ document, Json.read output = .ok (.map document) ∧
    Entries.get? Profile.serverKey document = some (.text s) ∧
    Entries.get? Profile.identityKey document = some (.text i)

theorem Shows.unique {output s i t j : Text} (h : Shows output s i) (h' : Shows output t j) :
    s = t ∧ i = j := by
  obtain ⟨document, hd, hs, hi⟩ := h
  obtain ⟨document', hd', ht, hj⟩ := h'
  rw [hd] at hd'
  cases hd'
  rw [hs] at ht
  rw [hi] at hj
  cases ht
  cases hj
  exact ⟨rfl, rfl⟩

theorem get?_printed (p : Profile) (key : Text) :
    Entries.get? key (Value.mapTextsMembers Wide.joinPairs
      (Entries.arrange true (Value.arrangedMembers true p.toEntries))) =
        ((Entries.get? key p.toEntries).map (Value.arranged true)).map
          (Value.mapTexts Wide.joinPairs) := by
  rw [Entries.get?_mapTextsMembers, Profile.get?_arranged]

theorem shows_printed {p : Profile} {s i : Text} (hs : p.server = .text s)
    (hi : p.effectiveIdentity = .text i) (hc : p.HasValidatedCredentials) :
    Shows (printed p) (Wide.joinPairs s) (Wide.joinPairs i) := by
  refine ⟨_, read_printed hc, ?_, ?_⟩
  · rw [get?_printed, Profile.get?_serverKey, hs]
    rfl
  · rw [get?_printed, Profile.get?_identityKey, hi]
    rfl

theorem not_shows_help {s i : Text} : ¬Shows Options.help s i := by
  rintro ⟨document, hd, -⟩
  obtain ⟨rest, hr⟩ : ∃ rest, Options.help = ('u' : CodePoint) :: rest := ⟨_, rfl⟩
  have ht : Json.tokens ('u' :: rest) = [.junk] := by
    have hl : Json.lexeme 'u' rest = (.junk, []) := rfl
    rw [Json.tokens, if_neg (by decide), hl, Json.tokens]
  rw [hr, Json.read, ht] at hd
  cases hd

-- ---------------------------------------------------------------------------
-- The second run
-- ---------------------------------------------------------------------------

/-- Options that only name a stored document, apart from a level of the log. -/
def naming (path : Path) (level : Level) : Options :=
  { Options.initial with config := .given path, logLevel := some level }

theorem parse_naming {t : Text} (h : t ≠ "--") :
    Options.parse ["--config=" ++ t] = .ok (.options (naming (.ofText t) .info)) := by
  have hc : Options.classify ["--config=" ++ t] = .ok [.option .config (some t)] := rfl
  rw [Options.parse, hc]
  change (do Options.run (← Options.assign Options.initial t .config) [] []) = _
  rw [Options.assign, if_neg h]
  rfl

theorem resolved_naming {read : Path → Except ReadProblem Octets} {path : Path} {level : Level}
    {file : Octets} {entries : List Entry} {p : Profile} (hf : read path = .ok file)
    (he : Stored.ofOctets file = .ok entries)
    (hp : (Profile.decode (.map entries)).result = .ok p) :
    (resolved read (naming path level) none).result = .ok (printed p) := by
  have hl : Stored.load read path = .ok entries := by
    rw [Stored.load, hf]
    exact he
  have hr : (resolve read (naming path level) none).result = .ok p := by
    refine resolve_ok.2 ⟨entries, .none, document_ok.2 hl, rfl, ?_⟩
    rwa [Overrides.apply_none]
  exact resolved_ok.2 ⟨p, hr, render_validated (resolve_validated hr)⟩

/-- A new profile whose addresses have no final slash is printed, loaded and printed alike. -/
theorem reprinted {p : Profile} {s i : Text} (h : p.IsNew) (hr : Profile.Reloadable p s i)
    (hs : ∀ u, s ≠ u ++ Uri.slash) (hi : ∀ u, i ≠ u ++ Uri.slash) :
    ∃ file, Utf8.encode? (printed p) = some file ∧
      ∀ (read : Path → Except ReadProblem Octets) (path : Path) (level : Level),
        read path = .ok file →
          (resolved read (naming path level) none).result = .ok (printed p) := by
  have ha := h.hasTextAddresses
  have hh := hr.mapTexts_halves hs hi
  obtain ⟨file, hf, entries, he, hd⟩ := ofOctets_printed ha hr.credentials
  -- The second run reloads the halves, and their addresses have no final slash to lose.
  obtain ⟨q, hq, -, hqd⟩ := hh.lossless_iff.2
    ⟨Uri.halves_ne_append_slash hs, Uri.halves_ne_append_slash hi⟩
  have hdecode : (Profile.decode (.map entries)).result = .ok q := by
    rw [hd, Profile.decode_arranged hh.credentials.holdsTexts]
    exact hq
  refine ⟨file, hf, fun read path level hread => ?_⟩
  rw [resolved_naming hread he hdecode, printed_congr hqd, printed_halves ha]

/-- The program can read what it prints. A document whose addresses have no final slash is saved,
and a run that is given the file and nothing to override prints the same. -/
theorem ofArguments_reprint {read : Path → Except ReadProblem Octets} {console : Console}
    {arguments : List Text} {token : Option Text} {s i : Text}
    (h : (ofArguments read console arguments token).ending = .success)
    (hd : Shows (ofArguments read console arguments token).output s i)
    (hs : ∀ u, s ≠ u ++ Uri.slash) (hi : ∀ u, i ≠ u ++ Uri.slash) :
    ∃ file, Utf8.encode? (ofArguments read console arguments token).output = some file ∧
      ∀ (readAgain : Path → Except ReadProblem Octets) (consoleAgain : Console) (again : List Text)
        (path : Path) (level : Level), Options.parse again = .ok (.options (naming path level)) →
        readAgain path = .ok file →
          (ofArguments readAgain consoleAgain again none).ending = .success ∧
            (ofArguments readAgain consoleAgain again none).output =
              (ofArguments read console arguments token).output := by
  obtain hhelp | ⟨o, p, -, hp, ht⟩ := ofArguments_success h
  · rw [hhelp] at hd
    exact absurd hd not_shows_help
  have hn := isNew_of_resolve hp
  obtain ⟨s₀, i₀, hr⟩ := hn.reloadable
  have ht := Except.ok.inj ((render_validated hr.credentials).symm.trans ht)
  rw [← ht] at hd ⊢
  obtain ⟨rfl, rfl⟩ := (shows_printed hr.server hr.identity hr.credentials).unique hd
  -- The output shows the addresses with their pairs joined, and a final slash would show.
  have hslash {t : Text} (ht : ∀ u, Wide.joinPairs t ≠ u ++ Uri.slash) :
      ∀ u, t ≠ u ++ Uri.slash := by
    rintro u rfl
    exact ht _ (Wide.joinPairs_append (by decide) u)
  obtain ⟨file, hf, hagain⟩ := reprinted hn hr (hslash hs) (hslash hi)
  refine ⟨file, hf, fun readAgain consoleAgain again path level hparse hread => ?_⟩
  rw [ofArguments, hparse]
  exact ofOptions_ok _ rfl rfl (hagain readAgain path level hread)

theorem ofArguments_reprint_one_slash :
    ∃ file, ∀ (read : Path → Except ReadProblem Octets) (console : Console),
      read (.ofText "saved.json") = .ok file →
        (ofArguments read console ["--config=" ++ "saved.json"] none).ending = .success ∧
          (ofArguments read console ["--config=" ++ "saved.json"] none).output =
            (ofArguments (fun _ => .error .missing) .lenient
              ["--home-server-url=https://a/", "--pin=h=k"] none).output := by
  have hc : HasValidatedCredentials ⟨.text "https://a", .null, none, [⟨"h", "k"⟩]⟩ :=
    fun _ h => nomatch h
  have hp : (resolve (fun _ => .error .missing) { Options.initial with
      homeServer := .given "https://a/", pins := some [some ⟨"h", "k"⟩] } none).result =
        .ok ⟨.text "https://a", .null, none, [⟨"h", "k"⟩]⟩ := rfl
  have ha : ofArguments (fun _ => .error .missing) .lenient
      ["--home-server-url=https://a/", "--pin=h=k"] none =
        ofOptions (fun _ => .error .missing) .lenient { Options.initial with
          homeServer := .given "https://a/", pins := some [some ⟨"h", "k"⟩] } none := rfl
  obtain ⟨he, ho⟩ := ofOptions_ok .lenient rfl rfl (resolved_ok.2 ⟨_, hp, render_validated hc⟩)
  rw [← ha] at he ho
  obtain ⟨file, -, h⟩ := ofArguments_reprint he (s := "https://a") (i := "https://a")
    (ho ▸ shows_printed (s := "https://a") (i := "https://a") rfl rfl hc)
    (by simp only [← Text.finalCount_eq_zero]; decide)
    (by simp only [← Text.finalCount_eq_zero]; decide)
  exact ⟨file, fun read console hr => h read console _ _ .info (parse_naming (by decide)) hr⟩

end ConnectionProfile.Run
