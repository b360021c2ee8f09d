import ConnectionProfile.Proofs.Logged
import ConnectionProfile.Proofs.Text.Final
import ConnectionProfile.Uri.Normal

/-!
# The final slash of a URI

A final slash is never part of the authority, so taking it away or adding one changes neither
whether a URI parses nor its scheme. Hence a URI that was brought to its normal form once can be
brought to it again, as often as it ends in a slash; and a URI that ends in a slash is refused
exactly when it does not parse as it is given (`normalize_refuses_iff`).
-/

namespace ConnectionProfile

namespace Uri

abbrev slash : Text := ['/']

-- ---------------------------------------------------------------------------
-- The authority
-- ---------------------------------------------------------------------------

theorem clean_append_slash (uri : Text) : clean (uri ++ slash) = clean uri ++ slash := by
  have hd : slash.dropWhile isLeadingNoise = slash := by decide
  have hf : slash.filter (!isNoise ·) = slash := by decide
  unfold clean
  rw [List.dropWhile_append]
  split
  case isTrue h =>
    rw [List.isEmpty_iff.1 h, hd, hf]
    rfl
  case isFalse => rw [List.filter_append, hf]

theorem afterScheme_append_slash (t : Text) :
    afterScheme (t ++ slash) = afterScheme t ++ slash := by
  unfold afterScheme
  cases h : t.cut? ':' with
  | none => rw [Text.cut?_append_of_none h (by decide)]
  | some parts =>
    rw [Text.cut?_append slash h]
    dsimp only
    split <;> rfl

/-- The part of a text that a delimiter ends, when a delimiter is added. -/
theorem takeWhile_append_slash (t : Text) :
    (t ++ slash).takeWhile (!endsAuthority ·) = t.takeWhile (!endsAuthority ·) := by
  have hs : endsAuthority '/' = true := by decide
  induction t with
  | nil => simp [hs]
  | cons c t ih => simp [List.takeWhile_cons, ih]

theorem authority_append_slash (uri : Text) : authority (uri ++ slash) = authority uri := by
  unfold authority
  rw [clean_append_slash, afterScheme_append_slash]
  generalize afterScheme (clean uri) = t
  cases h : t.after? "//" with
  | some rest =>
    have ht := Text.after?_eq_some.1 h
    rw [Text.after?_eq_some.2 (by rw [ht, List.append_assoc])]
    exact takeWhile_append_slash rest
  | none =>
    -- The slash may complete the two that open an authority, and then nothing follows them.
    cases hs : (t ++ slash).after? "//" with
    | none => rfl
    | some rest =>
      have ht := Text.after?_eq_some.1 hs
      rcases List.eq_nil_or_concat rest with rfl | ⟨u, c, rfl⟩
      · rfl
      · rw [List.concat_eq_append, ← List.append_assoc] at ht
        have hu := List.append_inj_left' ht rfl
        rw [Text.after?_eq_some.2 hu] at h
        cases h

theorem parses_append_slash (uri : Text) : parses (uri ++ slash) = parses uri := by
  unfold parses
  rw [authority_append_slash]

theorem parses_withoutFinal (uri : Text) : parses (uri.withoutFinal '/') = parses uri := by
  rcases uri.withoutFinal_cases '/' with ⟨u, rfl, hu⟩ | ⟨_, hu⟩
  · rw [hu, parses_append_slash]
  · rw [hu]

-- ---------------------------------------------------------------------------
-- The scheme
-- ---------------------------------------------------------------------------

theorem hasSupportedScheme_append_slash (uri : Text) :
    hasSupportedScheme (.text (uri ++ slash)) = hasSupportedScheme (.text uri) := by
  simp only [hasSupportedScheme]
  cases h : uri.cut? ':' with
  | none => rw [Text.cut?_append_of_none (c := '/') h (by decide)]
  | some parts => rw [Text.cut?_append slash h]

theorem hasSupportedScheme_withoutFinal (uri : Text) :
    hasSupportedScheme (.text (uri.withoutFinal '/')) = hasSupportedScheme (.text uri) := by
  rcases uri.withoutFinal_cases '/' with ⟨u, rfl, hu⟩ | ⟨_, hu⟩
  · rw [hu, hasSupportedScheme_append_slash]
  · rw [hu]

-- ---------------------------------------------------------------------------
-- Normal forms
-- ---------------------------------------------------------------------------

/-- Without its final slash, if it has one, the URI parses. -/
def CanNormalize (uri : Text) : Prop := ∀ rest : Text, uri = rest ++ slash → parses rest = true

theorem canNormalize_iff {uri : Text} :
    CanNormalize uri ↔ ∀ rest ∈ uri.withoutFinal? '/', parses rest = true := by
  constructor
  · intro h rest hr
    exact h rest (Text.withoutFinal?_eq_some.1 hr)
  · intro h rest hr
    exact h rest (Text.withoutFinal?_eq_some.2 hr)

instance (uri : Text) : Decidable (CanNormalize uri) := decidable_of_iff _ canNormalize_iff.symm

theorem normalize_ok {kind uri v : Text} :
    (normalize kind uri).result = .ok v ↔ CanNormalize uri ∧ v = uri.withoutFinal '/' := by
  rw [canNormalize_iff, normalize, Text.withoutFinal]
  cases uri.withoutFinal? '/' with
  | none =>
    simp only [Logged.pure_result_ok, Option.not_mem_none, false_implies, implies_true, true_and,
      Option.getD_none]
    exact eq_comm
  | some rest =>
    simp only [Option.mem_some_iff, forall_eq', Option.getD_some]
    cases parses rest with
    | true =>
      simp only [if_true, Logged.bind_result_ok, Logged.log_result_ok, true_and, exists_const,
        Logged.pure_result_ok]
      exact eq_comm
    | false =>
      simp only [Bool.false_eq_true, if_false, Logged.bind_result_ok, Logged.fail_result_ok,
        and_false, exists_false, false_and]

theorem CanNormalize.withoutFinal (h : CanNormalize uri) :
    CanNormalize (uri.withoutFinal '/') := by
  rcases uri.withoutFinal_cases '/' with ⟨u, rfl, hu⟩ | ⟨_, hu⟩
  · rw [hu]
    rintro v rfl
    rw [← parses_append_slash]
    exact h _ rfl
  · rwa [hu]

theorem CanNormalize.of_not_final (h : ∀ u : Text, uri ≠ u ++ slash) : CanNormalize uri :=
  fun u hu => absurd hu (h u)

-- ---------------------------------------------------------------------------
-- Refused URIs
-- ---------------------------------------------------------------------------

def EndsInSlash (uri : Text) : Prop := uri.getLast? = some ('/' : CodePoint)

instance (uri : Text) : Decidable (EndsInSlash uri) :=
  inferInstanceAs (Decidable (uri.getLast? = some ('/' : CodePoint)))

theorem withoutFinal?_eq_ite (uri : Text) :
    uri.withoutFinal? '/' = if EndsInSlash uri then some uri.dropLast else none := rfl

theorem parses_dropLast {uri : Text} (h : EndsInSlash uri) : parses uri.dropLast = parses uri := by
  obtain ⟨rest, rfl⟩ := List.getLast?_eq_some_iff.1 h
  rw [List.dropLast_concat]
  exact (parses_append_slash rest).symm

/-- A URI can be brought to its normal form when it has no final slash, or else when it parses as it
is given. -/
theorem canNormalize_iff_parses {uri : Text} :
    CanNormalize uri ↔ (EndsInSlash uri → parses uri = true) := by
  rw [canNormalize_iff, withoutFinal?_eq_ite]
  split
  case isTrue h => simp only [Option.mem_some_iff, forall_eq', parses_dropLast h, h, forall_const]
  case isFalse h => simp only [Option.not_mem_none, false_implies, implies_true, h]

theorem normalize_error {kind uri : Text} {e : InvalidProfile} :
    (normalize kind uri).result = .error e ↔ ¬CanNormalize uri ∧ e = .unparsable kind uri := by
  rw [canNormalize_iff, normalize]
  cases uri.withoutFinal? '/' with
  | none =>
    simp only [Option.not_mem_none, false_implies, implies_true, not_true, false_and, iff_false]
    exact nofun
  | some rest =>
    simp only [Option.mem_some_iff, forall_eq']
    cases parses rest with
    | true =>
      simp only [if_true, not_true, false_and, iff_false]
      exact nofun
    | false =>
      simp only [Bool.false_eq_true, if_false, not_false_eq_true, true_and]
      constructor
      · rintro ⟨⟩
        rfl
      · rintro rfl
        rfl

/-- A final slash has no part in whether a URI parses. So a URI is refused if and only if it ends in
a slash and does not parse as it is given; otherwise it loses the slash that it ends in, if it ends
in one, and nothing else. -/
theorem normalize_refuses_iff (kind uri : Text) :
    (EndsInSlash uri → (parses uri.dropLast = true ↔ parses uri = true)) ∧
    (∀ e, (normalize kind uri).result = .error e ↔
      EndsInSlash uri ∧ parses uri = false ∧ e = .unparsable kind uri) ∧
    ∀ v, (normalize kind uri).result = .ok v ↔
      if EndsInSlash uri then parses uri = true ∧ v = uri.dropLast else v = uri := by
  refine ⟨fun h => by rw [parses_dropLast h], fun e => ?_, fun v => ?_⟩
  · rw [normalize_error, canNormalize_iff_parses, Classical.not_imp, Bool.not_eq_true, and_assoc]
  · rw [normalize_ok, canNormalize_iff_parses, Text.withoutFinal, withoutFinal?_eq_ite]
    split
    case isTrue h => simp only [h, forall_const, Option.getD_some]
    case isFalse h => simp only [h, false_implies, true_and, Option.getD_none]

/-- The slash after an open bracket does not close it; of two slashes only one is taken. -/
theorem normalize_refuses_iff_brackets :
    (normalize "home server" "https://[::1/").result =
        .error (.unparsable "home server" "https://[::1/") ∧
      (normalize "home server" "https://[::1]//").result = .ok "https://[::1]/" := by
  obtain ⟨-, hrefused, -⟩ := normalize_refuses_iff "home server" "https://[::1/"
  obtain ⟨hparses, -, htaken⟩ := normalize_refuses_iff "home server" "https://[::1]//"
  have hs : EndsInSlash "https://[::1]//" := rfl
  have hp : parses "https://[::1]//" = true := (hparses hs).1 rfl
  refine ⟨(hrefused _).2 ⟨rfl, rfl, rfl⟩, (htaken _).2 ?_⟩
  rw [if_pos hs]
  exact ⟨hp, rfl⟩

end Uri

end ConnectionProfile
