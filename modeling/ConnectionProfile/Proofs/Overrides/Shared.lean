import ConnectionProfile.Overrides.Shared
import ConnectionProfile.Proofs.Overrides.Frame
import ConnectionProfile.Proofs.Yaml.Known

/-!
# Overrides on shared documents, and on values

Overrides make one collection, or two if credentials are written anew, and leave all others as they
are (`merge_eq`). Where the collections have values, what is made has the value that the overrides
make of the value of the document (`merge_value`).
-/

namespace ConnectionProfile

open Credentials (FieldName)
open Yaml (Ref Contents Known Knows)

variable {s : Collections} {es : List (Value × Ref)} {document : Nat}

-- ---------------------------------------------------------------------------
-- Steps
-- ---------------------------------------------------------------------------

theorem Yaml.Ref.isNull_iff {r : Ref} : r.isNull = true ↔ r = .value .null := by
  cases r with
  | value v => rw [isNull, Value.isNull_iff, value.injEq]
  | collection n => exact ⟨fun h => (nomatch h), fun h => (nomatch h)⟩

def Yaml.Ref.toOption (r : Ref) : Option Ref := if r.isNull then none else some r

namespace Collections

theorem getElem?_push_of_lt {n : Nat} (hn : n < s.size) (c : Contents) :
    (s.push c)[n]? = s[n]? := by
  rw [Array.getElem?_push, if_neg (Nat.ne_of_lt hn)]

theorem getElem?_push_of_some {n : Nat} {c : Contents} (h : s[n]? = some c) (d : Contents) :
    (s.push d)[n]? = some c := by
  rw [getElem?_push_of_lt (Array.getElem?_eq_some_iff.1 h).1, h]

theorem getElem?_push_push (s : Collections) (c d : Contents) :
    ((s.push c).push d)[s.size]? = some c ∧ ((s.push c).push d)[s.size + 1]? = some d := by
  refine ⟨getElem?_push_of_some Array.getElem?_push_size d, ?_⟩
  rw [← Array.size_push c]
  exact Array.getElem?_push_size

theorem put_append (s t : Collections) (es : List (Value × Ref)) (key : Text) (r : Ref) :
    put (s.push (.map es) ++ t) s.size key r =
      s.push (.map (Entries.put (.text key) r es)) ++ t := by
  unfold put
  ext i
  · simp
  · simp only [Array.getElem_modify, Array.getElem_append, Array.getElem_push, Array.size_push]
    grind

theorem put_push (s : Collections) (es : List (Value × Ref)) (key : Text) (r : Ref) :
    put (s.push (.map es)) s.size key r = s.push (.map (Entries.put (.text key) r es)) := by
  simpa using put_append s #[] es key r

theorem put_push_push (s : Collections) (es : List (Value × Ref)) (c : Contents) (key : Text)
    (r : Ref) : put ((s.push (.map es)).push c) s.size key r =
      (s.push (.map (Entries.put (.text key) r es))).push c := by
  simpa using put_append s #[c] es key r

theorem entries_collection (h : s[document]? = some (.map es)) :
    s.entries (.collection document) = es := by
  simp only [entries, h]

theorem entries_push (h : s[document]? = some (.map es)) (c : Contents) :
    entries (s.push c) (.collection document) = es :=
  entries_collection (getElem?_push_of_some h c)

end Collections

namespace Merging

variable {α β : Type}

theorem bind_apply (x : Merging α) (f : α → Merging β) (s : Collections) :
    (x >>= f) s = f (x s).1 (x s).2 := rfl

theorem pure_apply (a : α) (s : Collections) : (pure a : Merging α) s = (a, s) := rfl

theorem create_apply (c : Contents) (s : Collections) : create c s = (s.size, s.push c) := rfl

theorem entries_apply (r : Ref) (s : Collections) : entries r s = (s.entries r, s) := rfl

theorem put_apply (n : Nat) (key : Text) (r : Ref) (s : Collections) :
    put n key r s = ((), s.put n key r) := rfl

theorem putPresent_push (s : Collections) (es : List (Value × Ref)) (key : Text) (r : Ref) :
    putPresent s.size key r (s.push (.map es)) =
      ((), s.push (.map (Entries.putSome key r.toOption es))) := by
  unfold putPresent Ref.toOption
  split
  · rfl
  · rw [put_apply, Collections.put_push]
    rfl

theorem putPins_push (s : Collections) (es : List (Value × Ref)) (pins : Option (List Pin)) :
    putPins s.size pins (s.push (.map es)) =
      ((), s.push (.map (Entries.putSome Profile.pinsKey
        (pins.map fun ps => .value (.list (ps.map Pin.toDocument))) es))) := by
  cases pins with
  | none => rfl
  | some ps =>
    rw [putPins, put_apply, Collections.put_push]
    rfl

end Merging

namespace Overrides

namespace Shared

theorem firstPresent_cons (r : Ref) (rs : List Ref) :
    firstPresent (r :: rs) = if r.isNull then firstPresent rs else r := by
  unfold firstPresent
  rw [List.find?_cons]
  cases r.isNull <;> rfl

theorem firstPresent_singleton (r : Ref) : firstPresent [r] = r := by
  rw [firstPresent_cons]
  split
  · exact (Ref.isNull_iff.1 ‹_›).symm
  · rfl

end Shared

variable {o : Overrides} {token : Option Text}

/-- What is put when nothing is given is there already. -/
theorem putSome_firstPresent {key : Text} {merged : List (Value × Ref)} (v : Value)
    (h : Entries.under? key merged = Entries.under? key es) :
    Entries.putSome key (Shared.firstPresent [.value v, Shared.stored key es]).toOption merged =
      Entries.putSome key (v.toOption.map .value) merged := by
  by_cases hv : v = .null
  · subst hv
    have hf : Shared.firstPresent [.value .null, Shared.stored key es] = Shared.stored key es := by
      rw [Shared.firstPresent_cons, if_pos (Ref.isNull_iff.2 rfl), Shared.firstPresent_singleton]
    rw [hf, Shared.stored, ← h]
    cases hm : Entries.under? key merged with
    | none => rfl
    | some r =>
      rw [Option.getD_some, Ref.toOption]
      split
      · rfl
      · exact Entries.put_eq_self hm
  · have hf : Shared.firstPresent [.value v, Shared.stored key es] = .value v := by
      rw [Shared.firstPresent_cons, if_neg (by rwa [Ref.isNull, Value.isNull_iff])]
    rw [hf, Value.toOption_of_ne hv, Ref.toOption, if_neg (by rwa [Ref.isNull, Value.isNull_iff])]
    rfl

/-- The home server that the credentials are for if they do not say. -/
def sharedHomeServer (o : Overrides) (es : List (Value × Ref)) : Ref :=
  Shared.firstPresent [.value o.homeServer, Shared.stored Profile.serverKey es]

/-- The entries of the document with the overrides, apart from the credentials. -/
def sharedParts (o : Overrides) (es : List (Value × Ref)) : List (Value × Ref) :=
  Entries.putEach (o.partChanges .value) es

theorem putSome_eq_sharedParts :
    Entries.putSome Profile.pinsKey
        (o.pins.map fun ps => Ref.value (.list (ps.map Pin.toDocument)))
        (Entries.putSome Profile.identityKey (Shared.firstPresent
          [.value o.identityServer, Shared.stored Profile.identityKey es]).toOption
          (Entries.putSome Profile.serverKey (Shared.firstPresent
            [.value o.homeServer, Shared.stored Profile.serverKey es]).toOption es)) =
      o.sharedParts es := by
  rw [putSome_firstPresent _ rfl, putSome_firstPresent]
  · rfl
  · rw [Entries.under?_putSome, if_neg (by decide)]

/-- All that applying overrides does. The old credentials are read when the new mapping is there
already. -/
theorem merge_eq (h : s[document]? = some (.map es)) : o.merge token document s =
    if o.KeepsCredentials token then (s.size, s.push (.map (o.sharedParts es)))
    else (s.size, (s.push (.map (Entries.put (.text Profile.credentialsKey)
      (.collection (s.size + 1)) (o.sharedParts es)))).push
        (.map (Shared.credentials o (o.givenToken token) (o.sharedHomeServer es)
          (Collections.entries (s.push (.map (o.sharedParts es)))
            (Shared.stored Profile.credentialsKey es))))) := by
  have hk : ((firstPresent [o.accessToken, .ofTextOption token]).isNull && o.userId.isNull) = true ↔
      o.KeepsCredentials token := isNull_and_isNull_iff
  unfold merge
  simp only [Merging.bind_apply, Merging.create_apply, Merging.entries_apply,
    Collections.entries_collection h, Collections.entries_push h, Merging.putPresent_push,
    Merging.putPins_push, putSome_eq_sharedParts, hk]
  split
  · rfl
  · simp only [Merging.bind_apply, Merging.create_apply, Merging.entries_apply, Merging.put_apply,
      Merging.pure_apply, Collections.entries_push h, Collections.put_push_push, Array.size_push]
    rfl

end Overrides

-- ---------------------------------------------------------------------------
-- Values
-- ---------------------------------------------------------------------------

section
variable {o : Overrides} {token : Option Text} {known : Known} {r : Ref} {v : Value}
  {fs kept : List Entry} {old : List (Value × Ref)}

theorem Overrides.Shared.stored_is (hc : Entries.Correspond (Ref.Is known) es fs) (key : Text) :
    (stored key es).Is known (Overrides.stored key fs) := by
  have hu := hc.under? key
  rw [stored, Overrides.stored, Entries.get?_eq_under?]
  generalize Entries.under? key es = r, Entries.under? key fs = v at hu ⊢
  cases hu with
  | none => exact Ref.is_value.2 rfl
  | some hv => exact hv

namespace Yaml.Knows

theorem isNull (h : Knows s known) (hr : r.Is known v) : r.isNull = v.isNull := by
  cases r with
  | value w => rw [Ref.is_value.1 hr, Ref.isNull]
  | collection n =>
    obtain ⟨c, -, hc⟩ := h.value (Ref.is_collection.1 hr)
    obtain ⟨_, rfl⟩ | ⟨_, rfl⟩ | ⟨_, rfl⟩ := Contents.value?_cases hc <;> rfl

theorem defaultHomeServer (h : Knows s known) (hr : r.Is known v) :
    (Overrides.Shared.defaultHomeServer r).Is known (Overrides.defaultHomeServer v) := by
  cases r with
  | value w =>
    rw [Ref.is_value.1 hr]
    exact Ref.is_value.2 rfl
  | collection n =>
    obtain ⟨c, -, hc⟩ := h.value (Ref.is_collection.1 hr)
    obtain ⟨_, rfl⟩ | ⟨_, rfl⟩ | ⟨_, rfl⟩ := Contents.value?_cases hc <;> exact hr

theorem entries (h : Knows s known) (hr : r.Is known v) :
    Entries.Correspond (Ref.Is known) (s.entries r) v.entries := by
  cases r with
  | value w =>
    obtain rfl := Ref.is_value.1 hr
    cases w with
    | map fs => exact Ref.is_values fs
    | _ => exact .nil
  | collection n =>
    obtain ⟨c, hc, hv⟩ := h.value (Ref.is_collection.1 hr)
    simp only [Collections.entries, hc]
    cases c with
    | map es =>
      obtain ⟨fs, hfs, rfl⟩ := Contents.value?_map.1 hv
      exact hfs
    | _ =>
      cases v with
      | map fs => obtain ⟨_, ⟨⟩⟩ := Contents.eq_map_of_value? hv
      | _ => exact .nil

theorem firstPresent (h : Knows s known) {rs : List Ref} {vs : List Value}
    (hr : List.Forall₂ (Ref.Is known) rs vs) :
    (Overrides.Shared.firstPresent rs).Is known (Overrides.firstPresent vs) := by
  induction hr with
  | nil => exact Ref.is_value.2 rfl
  | cons hv _ ih =>
    rw [Overrides.Shared.firstPresent_cons, Overrides.firstPresent_cons, h.isNull hv]
    split
    · exact ih
    · exact hv

theorem fieldValue (h : Knows s known) (accessToken : Value) (hr : r.Is known v)
    (hc : Entries.Correspond (Ref.Is known) old kept) (field : FieldName) :
    (Overrides.Shared.fieldValue o accessToken r old field).Is known
      (o.fieldValue accessToken v kept field) := by
  have hgiven (w : Value) (field : FieldName) :
      (Overrides.Shared.firstPresent [.value w, Overrides.Shared.stored field.key old]).Is known
        (Overrides.firstPresent [w, Overrides.stored field.key kept]) :=
    h.firstPresent (.cons (Ref.is_value.2 rfl) (.cons (Overrides.Shared.stored_is hc _) .nil))
  cases field with
  | homeServer =>
    exact h.firstPresent
      (.cons (Overrides.Shared.stored_is hc _) (.cons (h.defaultHomeServer hr) .nil))
  | refreshToken => exact Overrides.Shared.stored_is hc _
  | _ => exact hgiven ..

theorem credentials (h : Knows s known) (accessToken : Value) (hr : r.Is known v)
    (hc : Entries.Correspond (Ref.Is known) old kept) :
    Entries.Correspond (Ref.Is known) (Overrides.Shared.credentials o accessToken r old)
      (o.credentials accessToken v kept) := by
  rw [Overrides.credentials_eq_filter]
  refine List.rel_filter (fun e f hef => ?_) (List.forall₂_map_left_iff.2
    (List.forall₂_map_right_iff.2 (List.forall₂_same.2 fun field _ =>
      ⟨rfl, h.fieldValue accessToken hr hc field⟩)))
  change (!e.2.isNull) = true ↔ (!f.2.isNull) = true
  rw [h.isNull hef.2]

theorem entries_push (h : Knows s known) (hr : r.Is known v) (c : Contents) :
    Collections.entries (s.push c) r = s.entries r := by
  cases r with
  | value w => cases w <;> rfl
  | collection n =>
    have hn : n < s.size := by
      rw [← h.size]
      exact (Array.getElem?_eq_some_iff.1 (Ref.is_collection.1 hr)).1
    simp only [Collections.entries, Collections.getElem?_push_of_lt hn]

end Yaml.Knows

namespace Overrides

theorem sharedParts_correspond (hc : Entries.Correspond (Ref.Is known) es fs) :
    Entries.Correspond (Ref.Is known) (o.sharedParts es)
      (Entries.putEach (o.partChanges id) fs) := by
  have hmap {α : Type} (x : Option α) (f : α → Value) :
      Option.Rel (Ref.Is known) (x.map fun a => .value (f a)) (x.map f) := by
    cases x with
    | none => exact .none
    | some a => exact .some (Ref.is_value.2 rfl)
  exact hc.putEach (.cons ⟨rfl, hmap _ id⟩ (.cons ⟨rfl, hmap _ id⟩ (.cons ⟨rfl, hmap _ _⟩ .nil)))

theorem credentials_correspond (h : Knows s known)
    (hc : Entries.Correspond (Ref.Is known) es fs) (c : Contents) :
    Entries.Correspond (Ref.Is known)
      (Shared.credentials o (o.givenToken token) (o.sharedHomeServer es)
        (Collections.entries (s.push c) (Shared.stored Profile.credentialsKey es)))
      (o.newCredentials token fs) := by
  have hs := Shared.stored_is hc Profile.credentialsKey
  have hold := h.entries hs
  rw [← storedCredentials_eq] at hold
  rw [h.entries_push hs, newCredentials]
  exact h.credentials _ (h.firstPresent
    (.cons (Ref.is_value.2 rfl) (.cons (Shared.stored_is hc _) .nil))) hold

/-- Applying overrides to a collection makes what applying them to its value makes. -/
theorem merge_value (o : Overrides) (token : Option Text) (h : Knows s known)
    (hd : (Ref.collection document).Is known (.map fs)) :
    ∃ more, Knows (o.merge token document s).2 (known ++ more) ∧
      (Ref.collection (o.merge token document s).1).Is (known ++ more)
        (.map (o.apply token fs)) := by
  obtain ⟨c, hc, hv⟩ := h.value (Ref.is_collection.1 hd)
  obtain ⟨es, rfl⟩ := Contents.eq_map_of_value? hv
  obtain ⟨_, hfs, ⟨⟩⟩ := Contents.value?_map.1 hv
  have hmono {more : Known} (r : Ref) (v : Value) (hr : r.Is known v) : r.Is (known ++ more) v :=
    hr.mono (Known.extends_append _ _)
  have hparts (more : Known) : Entries.Correspond (Ref.Is (known ++ more)) (o.sharedParts es)
      (Entries.putEach (o.partChanges id) fs) := (sharedParts_correspond hfs).mono hmono
  have hlast (v : Value) (vs : List Value) :
      (Ref.collection s.size).Is (known ++ ((v :: vs).map some).toArray) v := by
    rw [Ref.is_collection, ← h.size]
    simp
  rw [merge_eq hc, apply_eq_putEach, putEach_changes]
  by_cases hk : o.KeepsCredentials token
  · rw [if_pos hk, if_pos hk]
    exact ⟨_, h.append (.cons (Contents.value?_map.2 ⟨_, hparts _, rfl⟩) .nil), hlast _ []⟩
  · rw [if_neg hk, if_neg hk]
    -- The new mapping holds the new credentials, which come after it.
    let vs : List Value := [.map (Entries.put (.text Profile.credentialsKey)
      (.map (o.newCredentials token fs)) (Entries.putEach (o.partChanges id) fs)),
        .map (o.newCredentials token fs)]
    have hnew : (Ref.collection (s.size + 1)).Is (known ++ (vs.map some).toArray)
        (.map (o.newCredentials token fs)) := by
      rw [Ref.is_collection, ← h.size]
      simp [vs]
    exact ⟨_, h.append (.cons (Contents.value?_map.2 ⟨_, (hparts _).put _ hnew, rfl⟩)
      (.cons (Contents.value?_map.2 ⟨_, (credentials_correspond h hfs _).mono hmono, rfl⟩) .nil)),
        hlast ..⟩

/-- To apply overrides to the collections of a graph is to apply them to its value, if the document
is not endless. -/
theorem merge_loaded {g : Yaml.Graph} (hg : g.build = .ok (.collection document, s))
    (hd : (Ref.collection document).Is (Yaml.settled s) (.map fs)) :
    g.value = .ok (.map fs) ∧
      ∃ more, Knows (o.merge token document s).2 (Yaml.settled s ++ more) ∧
        (Ref.collection (o.merge token document s).1).Is (Yaml.settled s ++ more)
          (.map (o.apply token fs)) :=
  ⟨Yaml.Graph.value_of_settled hg hd, merge_value o token (Yaml.knows_settled s) hd⟩

/-- Credentials that are written anew are a collection of their own. -/
def IsNewCredentials (s t : Collections) (r : Ref) : Prop :=
  ∃ n fields, r = .collection n ∧ s.size ≤ n ∧ t[n]? = some (.map fields) ∧
    AreFields Ref.isNull fields

theorem merge_puts (o : Overrides) (token : Option Text) (h : s[document]? = some (.map es)) :
    (∀ n < s.size, (o.merge token document s).2[n]? = s[n]?) ∧
      (o.merge token document s).1 = s.size ∧
      ∃ r, (o.merge token document s).2[s.size]? =
          some (.map (Entries.putEach (o.changes token .value r) es)) ∧
        (¬o.KeepsCredentials token → IsNewCredentials s (o.merge token document s).2 r) := by
  rw [merge_eq h]
  by_cases hk : o.KeepsCredentials token
  · rw [if_pos hk]
    refine ⟨fun n hn => Collections.getElem?_push_of_lt hn _, rfl, .value .null, ?_,
      fun hn => absurd hk hn⟩
    rw [putEach_changes, if_pos hk]
    exact Array.getElem?_push_size
  · rw [if_neg hk]
    refine ⟨fun n hn => ?_, rfl, .collection (s.size + 1), ?_, fun _ => ?_⟩
    · have hn' (c : Contents) : n < (s.push c).size := by
        rw [Array.size_push]
        exact Nat.lt_succ_of_lt hn
      rw [Collections.getElem?_push_of_lt (hn' _), Collections.getElem?_push_of_lt hn]
    · rw [putEach_changes, if_neg hk]
      exact (Collections.getElem?_push_push ..).1
    · exact ⟨_, _, rfl, Nat.le_succ _, (Collections.getElem?_push_push ..).2, areFields_filter ..⟩

/-- Overrides are put over a document that can be shared in every way, and can hold itself. No
collection that was there changes, and the new mapping is the document but for what is given. Its
value is what the overrides make of the value of the document. -/
theorem merge_frame (o : Overrides) (token : Option Text) (h : s[document]? = some (.map es)) :
    ∃ merged t ms, o.merge token document s = (merged, t) ∧
      (∀ n < s.size, t[n]? = s[n]?) ∧ s.size ≤ merged ∧ t[merged]? = some (.map ms) ∧
      o.Frames token Ref.value (IsNewCredentials s t) es ms ∧
      (∀ known fs, Knows s known → (Ref.collection document).Is known (.map fs) →
        ∃ more, Knows t (known ++ more) ∧
          (Ref.collection merged).Is (known ++ more) (.map (o.apply token fs))) ∧
      ∀ fs, o.Frames token id IsFields fs (o.apply token fs) := by
  obtain ⟨hold, hmerged, r, hms, hnew⟩ := merge_puts o token h
  refine ⟨(o.merge token document s).1, (o.merge token document s).2, _, rfl, hold,
    Nat.le_of_eq hmerged.symm, ?_, frames_putEach hnew es,
    fun known fs hs hd => merge_value o token hs hd, apply_frames o token⟩
  rw [hmerged]
  exact hms

/-- A document that holds itself and its credentials, which hold a null. -/
def holdingItself : Collections := #[
  .map [(.text "self", .collection 0), (.text "home_server_url", .value (.text "https://a/")),
    (.text "credentials", .collection 1)],
  .map [(.text "user_id", .value (.text "u")), (.text "device_id", .value .null)]]

theorem merge_frame_holdingItself :
    ∃ merged t ms, merge { none with accessToken := .text "t", identityServer := .text "i" } .none 0
        holdingItself = (merged, t) ∧
      (∀ n < 2, t[n]? = holdingItself[n]?) ∧ t[merged]? = some (.map ms) ∧
      Entries.keys ms = [.text "self", .text "home_server_url", .text "credentials",
        .text "identity_server_url"] := by
  have hd : holdingItself[0]? = some _ := rfl
  obtain ⟨merged, t, ms, hrun, hold, -, hms, hframe, -⟩ := merge_frame
    { none with accessToken := .text "t", identityServer := .text "i" } .none hd
  exact ⟨merged, t, ms, hrun, hold, hms, hframe.order⟩

end Overrides

end

end ConnectionProfile
