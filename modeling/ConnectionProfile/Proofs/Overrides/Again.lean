import ConnectionProfile.Proofs.Overrides.Shared

/-!
# Overrides that are put again

Overrides that were put over a document change nothing when they are put over the mapping that they
made. New credentials are made again, but they hold the same as before (`merge_merge_written`), and
all else is the very same. So this holds of a document that holds itself too, which has no value;
for documents that are values it follows (`apply_apply`).
-/

namespace ConnectionProfile

open Credentials (FieldName)
open Yaml (Ref Contents Known Knows)

variable {s : Collections} {es : List (Value × Ref)} {document : Nat}

/-- Both are the same, or else they are collections that hold the same. -/
def Collections.Same (s : Collections) (r q : Ref) : Prop :=
  r = q ∨ ∃ n m c, r = .collection n ∧ q = .collection m ∧ s[n]? = some c ∧ s[m]? = some c

namespace Entries

variable {α : Type} {R : α → α → Prop} {k : Text} {v w : α} {fs : List (Value × α)}

theorem correspond_refl (h : ∀ v, R v v) (fs : List (Value × α)) : Correspond R fs fs :=
  List.forall₂_same.2 fun _ _ => ⟨rfl, h _⟩

/-- A value is replaced by one that it is related to. -/
theorem correspond_put_self (h : ∀ v, R v v) (hu : under? k fs = some w) (hv : R v w) :
    Correspond R (put (.text k) v fs) fs := by
  induction fs with
  | nil => cases hu
  | cons e fs ih =>
    obtain ⟨l, x⟩ := e
    rw [under?] at hu
    rw [put]
    split at hu
    · cases hu
      rw [if_pos ‹_›]
      exact .cons ⟨rfl, hv⟩ (correspond_refl h fs)
    · rw [if_neg ‹_›]
      exact .cons ⟨rfl, h _⟩ (ih hu)

end Entries

-- ---------------------------------------------------------------------------
-- The same values
-- ---------------------------------------------------------------------------

namespace Yaml.Knows

variable {known : Known} {r q : Ref} {fs fs' : List Entry}

theorem eq_of_same {v w : Value} (h : Knows s known) (hsame : s.Same r q)
    (hr : r.Is known v) (hq : q.Is known w) : v = w := by
  obtain rfl | ⟨n, m, c, rfl, rfl, hn, hm⟩ := hsame
  · exact Option.some_inj.1 (hr.symm.trans hq)
  · obtain ⟨d, hd, hv⟩ := h.value (Ref.is_collection.1 hr)
    obtain ⟨e, he, hw⟩ := h.value (Ref.is_collection.1 hq)
    obtain rfl := Option.some_inj.1 (hn.symm.trans hd)
    obtain rfl := Option.some_inj.1 (hm.symm.trans he)
    exact Option.some_inj.1 (hv.symm.trans hw)

theorem eq_of_correspond {es es' : List (Value × Ref)} (h : Knows s known)
    (hsame : Entries.Correspond s.Same es' es) (hes' : Entries.Correspond (Ref.Is known) es' fs')
    (hes : Entries.Correspond (Ref.Is known) es fs) : fs' = fs := by
  induction hsame generalizing fs fs' with
  | nil =>
    cases hes'
    cases hes
    rfl
  | cons hrq _ ih =>
    obtain _ | ⟨hr, hes'⟩ := hes'
    obtain _ | ⟨hq, hes⟩ := hes
    rw [ih hes' hes]
    exact congrArg (· :: _) (Prod.ext (by rw [← hr.1, hrq.1, hq.1])
      (eq_of_same h hrq.2 hr.2 hq.2))

end Yaml.Knows

namespace Overrides

variable {o : Overrides} {token : Option Text} {old : List (Value × Ref)} {r : Ref}

-- ---------------------------------------------------------------------------
-- Credentials
-- ---------------------------------------------------------------------------

namespace Shared

theorem firstPresent_pair (r q : Ref) : firstPresent [r, q] = if r.isNull then q else r := by
  rw [firstPresent_cons, firstPresent_singleton]

theorem stored_filter {es : List (Value × Ref)} (hn : (Entries.keys es).Nodup) (key : Text) :
    stored key (es.filter fun e => !e.2.isNull) = stored key es := by
  rw [stored, stored, Entries.under?_filter (fun r => !r.isNull) hn]
  cases Entries.under? key es with
  | none => rfl
  | some r =>
    rw [Option.filter_some, Option.getD_some]
    split
    case isTrue => rfl
    case isFalse hr => exact (Ref.isNull_iff.1 (by simpa using hr)).symm

theorem stored_credentials (accessToken : Value) (homeServer : Ref) (old : List (Value × Ref))
    (field : FieldName) : stored field.key (credentials o accessToken homeServer old) =
      fieldValue o accessToken homeServer old field := by
  have hk : (Entries.keys (FieldName.all.map fun f =>
      (Value.text f.key, fieldValue o accessToken homeServer old f))).Nodup := by
    simp +decide [Entries.keys, FieldName.all]
  rw [credentials, stored_filter hk]
  cases field <;> rfl

/-- A field that was chosen is chosen again. -/
theorem fieldValue_credentials (accessToken : Value) (homeServer : Ref) (field : FieldName) :
    fieldValue o accessToken homeServer (credentials o accessToken homeServer old) field =
      fieldValue o accessToken homeServer old field := by
  have hagain (r q : Ref) : firstPresent [r, firstPresent [r, q]] = firstPresent [r, q] := by
    grind [firstPresent_pair]
  have hkept (r q : Ref) : firstPresent [firstPresent [r, q], q] = firstPresent [r, q] := by
    grind [firstPresent_pair]
  cases field with
  | homeServer => simp only [fieldValue, stored_credentials, hkept]
  | _ => simp only [fieldValue, stored_credentials, hagain]

theorem credentials_credentials (accessToken : Value) (homeServer : Ref) :
    credentials o accessToken homeServer (credentials o accessToken homeServer old) =
      credentials o accessToken homeServer old := by
  have hf (old : List (Value × Ref)) : credentials o accessToken homeServer old =
      (FieldName.all.map fun field =>
        (Value.text field.key, fieldValue o accessToken homeServer old field)).filter
          fun e => !e.2.isNull := rfl
  rw [hf]
  simp only [fieldValue_credentials, ← hf]

end Shared

-- ---------------------------------------------------------------------------
-- The second time
-- ---------------------------------------------------------------------------

theorem sharedParts_changes :
    o.sharedParts (Entries.putEach (o.changes token .value r) es) =
      Entries.putEach (o.changes token .value r) es := by
  refine Entries.putEach_eq_self fun c hc v hv => ?_
  rw [under?_changes (List.mem_append_left _ hc), Option.mem_def.1 hv, Option.some_or]

theorem sharedHomeServer_changes :
    o.sharedHomeServer (Entries.putEach (o.changes token .value r) es) =
      o.sharedHomeServer es := by
  have hf : o.Frames token .value (fun _ => True) es
      (Entries.putEach (o.changes token .value r) es) := frames_putEach (fun _ => trivial) es
  rw [sharedHomeServer, Shared.stored, hf.server, sharedHomeServer, Shared.stored]
  split
  · rfl
  · have hv : ¬(Ref.value o.homeServer).isNull = true := by rwa [Ref.isNull, Value.isNull_iff]
    rw [Option.getD_some, Shared.firstPresent_cons, if_neg hv, Shared.firstPresent_cons, if_neg hv]

theorem merge_kept (h : s[document]? = some (.map es)) (hk : o.KeepsCredentials token) (r : Ref) :
    o.merge token document s =
      (s.size, s.push (.map (Entries.putEach (o.changes token .value r) es))) := by
  rw [merge_eq h, if_pos hk, putEach_changes, if_pos hk, sharedParts]

/-- The fields that are written are those of the old credentials, with what is given. -/
theorem merge_written (h : s[document]? = some (.map es)) (hk : ¬o.KeepsCredentials token) :
    ∃ old, o.merge token document s = (s.size, (s.push (.map
        (Entries.putEach (o.changes token .value (.collection (s.size + 1))) es))).push
          (.map (Shared.credentials o (o.givenToken token) (o.sharedHomeServer es) old))) ∧
      ∀ n fields, Shared.stored Profile.credentialsKey es = .collection n →
        s[n]? = some (.map fields) → old = fields := by
  refine ⟨Collections.entries (s.push (.map (o.sharedParts es)))
    (Shared.stored Profile.credentialsKey es), ?_, fun n fields hn hf => ?_⟩
  · rw [merge_eq h, if_neg hk, putEach_changes, if_neg hk, sharedParts]
  · rw [hn]
    exact Collections.entries_push hf _

theorem merge_merge_kept (h : s[document]? = some (.map es)) (hk : o.KeepsCredentials token) :
    ∃ ms t, o.merge token document s = (s.size, t) ∧ t[s.size]? = some (.map ms) ∧
      o.merge token s.size t = (t.size, t.push (.map ms)) := by
  let ms := Entries.putEach (o.changes token .value (.value .null)) es
  have hms : (s.push (.map ms))[s.size]? = some (.map ms) := Array.getElem?_push_size
  have hagain : Entries.putEach (o.changes token .value (.value .null)) ms = ms :=
    Entries.putEach_putEach (nodup_changes ..) es
  refine ⟨ms, _, merge_kept h hk _, hms, ?_⟩
  rw [merge_kept hms hk (.value .null), hagain]

theorem merge_merge_written (h : s[document]? = some (.map es)) (hk : ¬o.KeepsCredentials token) :
    ∃ ms fields t, o.merge token document s = (s.size, t) ∧ t[s.size]? = some (.map ms) ∧
      Entries.under? Profile.credentialsKey ms = some (.collection (s.size + 1)) ∧
      t[s.size + 1]? = some (.map fields) ∧
      o.merge token s.size t = (t.size, (t.push (.map (Entries.put (.text Profile.credentialsKey)
        (.collection (t.size + 1)) ms))).push (.map fields)) := by
  obtain ⟨old, hfirst, -⟩ := merge_written h hk
  let ms := Entries.putEach (o.changes token .value (.collection (s.size + 1))) es
  let fields := Shared.credentials o (o.givenToken token) (o.sharedHomeServer es) old
  let t := (s.push (.map ms)).push (.map fields)
  obtain ⟨hms, hfields⟩ : t[s.size]? = some (.map ms) ∧ t[s.size + 1]? = some (.map fields) :=
    Collections.getElem?_push_push ..
  have hu : Entries.under? Profile.credentialsKey ms = some (.collection (s.size + 1)) :=
    (under?_changes_credentialsKey ..).trans (if_neg hk)
  have hstored : Shared.stored Profile.credentialsKey ms = .collection (s.size + 1) := by
    rw [Shared.stored, hu, Option.getD_some]
  obtain ⟨old', hsecond, hold⟩ := merge_written hms hk
  obtain rfl := hold _ _ hstored hfields
  have hagain : Shared.credentials o (o.givenToken token) (o.sharedHomeServer ms) fields =
      fields := by
    rw [sharedHomeServer_changes, Shared.credentials_credentials]
  refine ⟨ms, fields, t, hfirst, hms, hu, hfields, ?_⟩
  rw [hsecond, hagain, putEach_changes, if_neg hk, ← sharedParts, sharedParts_changes]

theorem merge_merge (o : Overrides) (token : Option Text) (h : s[document]? = some (.map es)) :
    ∃ first t second u ms ms', o.merge token document s = (first, t) ∧
      o.merge token first t = (second, u) ∧ u[first]? = some (.map ms) ∧
      u[second]? = some (.map ms') ∧ Entries.Correspond (Collections.Same u) ms' ms := by
  have hrefl (u : Collections) (r : Ref) : Collections.Same u r r := .inl rfl
  by_cases hk : o.KeepsCredentials token
  · obtain ⟨ms, t, hfirst, hms, hsecond⟩ := merge_merge_kept h hk
    exact ⟨_, t, _, _, ms, ms, hfirst, hsecond, Collections.getElem?_push_of_some hms _,
      Array.getElem?_push_size, Entries.correspond_refl (hrefl _) ms⟩
  · obtain ⟨ms, fields, t, hfirst, hms, hu, hfields, hsecond⟩ := merge_merge_written h hk
    have hkept {n : Nat} {c : Contents} (hc : t[n]? = some c) (d e : Contents) :
        ((t.push d).push e)[n]? = some c :=
      Collections.getElem?_push_of_some (Collections.getElem?_push_of_some hc d) e
    obtain ⟨hms', hfields'⟩ := Collections.getElem?_push_push t
      (.map (Entries.put (.text Profile.credentialsKey) (.collection (t.size + 1)) ms))
      (.map fields)
    exact ⟨_, t, _, _, ms, _, hfirst, hsecond, hkept hms .., hms', Entries.correspond_put_self
      (hrefl _) hu (.inr ⟨_, _, _, rfl, rfl, hfields', hkept hfields ..⟩)⟩

-- ---------------------------------------------------------------------------
-- Values
-- ---------------------------------------------------------------------------

theorem merge_merge_value {known : Known} {fs : List Entry} (o : Overrides)
    (token : Option Text) (h : Knows s known)
    (hd : (Ref.collection document).Is known (.map fs)) {first second : Nat} {t u : Collections}
    {ms ms' : List (Value × Ref)} (hfirst : o.merge token document s = (first, t))
    (hsecond : o.merge token first t = (second, u)) (hms : u[first]? = some (.map ms))
    (hms' : u[second]? = some (.map ms')) (hsame : Entries.Correspond u.Same ms' ms) :
    o.apply token (o.apply token fs) = o.apply token fs ∧
      ∃ more, Knows u (known ++ more) ∧
        (Ref.collection first).Is (known ++ more) (.map (o.apply token fs)) ∧
        (Ref.collection second).Is (known ++ more) (.map (o.apply token fs)) := by
  obtain ⟨more, ht, hf⟩ := merge_value o token h hd
  rw [hfirst] at ht hf
  obtain ⟨last, hu, hl⟩ := merge_value o token ht hf
  rw [hsecond] at hu hl
  have hf := hf.mono (Known.extends_append _ last)
  have hes := hu.entries hf
  have hes' := hu.entries hl
  rw [Collections.entries_collection hms] at hes
  rw [Collections.entries_collection hms'] at hes'
  have heq : o.apply token (o.apply token fs) = o.apply token fs :=
    hu.eq_of_correspond hsame hes' hes
  rw [heq] at hl
  rw [Array.append_assoc] at hu hf hl
  exact ⟨heq, _, hu, hf, hl⟩

/-- A document that is a value, as a collection. -/
theorem knows_document (fs : List Entry) :
    Knows #[.map (fs.map fun (k, v) => (k, .value v))] #[some (.map fs)] :=
  (Yaml.knows_nothing #[]).append
    (.cons (Contents.value?_map.2 ⟨fs, Ref.is_values fs, rfl⟩) .nil)

theorem apply_apply (o : Overrides) (token : Option Text) (fs : List Entry) :
    o.apply token (o.apply token fs) = o.apply token fs := by
  have hd : #[Contents.map (fs.map fun (k, v) => (k, .value v))][0]? = some (.map _) := rfl
  have hv : (Ref.collection 0).Is #[some (.map fs)] (.map fs) := rfl
  obtain ⟨_, _, _, _, _, _, hfirst, hsecond, hms, hms', hsame⟩ := merge_merge o token hd
  exact (merge_merge_value o token (knows_document fs) hv hfirst hsecond hms hms' hsame).1

/-- Overrides are put over a document, which can be shared in every way and can hold itself, and
then over the mapping that they made. The two mappings hold the same in the same order, and the two
have the same value if the document has one. -/
theorem merge_again (o : Overrides) (token : Option Text) (h : s[document]? = some (.map es)) :
    ∃ first t second u ms ms', o.merge token document s = (first, t) ∧
      o.merge token first t = (second, u) ∧ u[first]? = some (.map ms) ∧
      u[second]? = some (.map ms') ∧ Entries.Correspond (Collections.Same u) ms' ms ∧
      (∀ known fs, Knows s known → (Ref.collection document).Is known (.map fs) →
        ∃ more, Knows u (known ++ more) ∧
          (Ref.collection first).Is (known ++ more) (.map (o.apply token fs)) ∧
          (Ref.collection second).Is (known ++ more) (.map (o.apply token fs))) ∧
      ∀ fs, o.apply token (o.apply token fs) = o.apply token fs := by
  obtain ⟨first, t, second, u, ms, ms', hfirst, hsecond, hms, hms', hsame⟩ := merge_merge o token h
  exact ⟨first, t, second, u, ms, ms', hfirst, hsecond, hms, hms', hsame,
    fun known fs hs hd => (merge_merge_value o token hs hd hfirst hsecond hms hms' hsame).2,
    apply_apply o token⟩

theorem merge_again_holdingItself :
    holdingItself[0]?.isSome ∧
      ∃ first t second u ms ms', merge { none with accessToken := .text "t" } .none 0
          holdingItself = (first, t) ∧
        merge { none with accessToken := .text "t" } .none first t = (second, u) ∧
        u[first]? = some (.map ms) ∧ u[second]? = some (.map ms') ∧
        Entries.Correspond (Collections.Same u) ms' ms := by
  have hd : holdingItself[0]? = some _ := rfl
  obtain ⟨first, t, second, u, ms, ms', hfirst, hsecond, hms, hms', hsame, -⟩ :=
    merge_again { none with accessToken := .text "t" } .none hd
  exact ⟨rfl, first, t, second, u, ms, ms', hfirst, hsecond, hms, hms', hsame⟩

end Overrides

end ConnectionProfile
