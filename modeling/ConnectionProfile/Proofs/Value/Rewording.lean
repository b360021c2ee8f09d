import ConnectionProfile.Proofs.Value.Document
import ConnectionProfile.Proofs.Value.Form
import Mathlib.Logic.Relation

/-!
# Reworded mappings

A mapping can be changed without a change for those who ask for the keys of a form: the members can
be put in another order, members under other keys can be added, and so can a null under an optional
key. `Rewords.under` says what such a change does to the value under a key, and `Alike.congr` lifts
what one change preserves to any number of changes in both directions.
-/

namespace ConnectionProfile

theorem Entries.get?_cons_of_ne {key : Text} {k v : Value} {es : List Entry} (h : k ≠ .text key) :
    get? key ((k, v) :: es) = get? key es := by
  cases k with
  | text k =>
    have hk : k ≠ key := fun hk => h (by rw [hk])
    rw [get?, if_neg hk]
  | _ => rfl

namespace Form

open Overrides (stored)

variable {form : Form} {same : Text → Value → Value → Prop} {es fs : List Entry} {key : Text}

/-- One change of a mapping. `same` says which values are taken for the same under a key. -/
inductive Rewords (form : Form) (same : Text → Value → Value → Prop) :
    List Entry → List Entry → Prop
  | reorder {es fs : List Entry} (hn : (Entries.keys es).Nodup) (h : es.Perm fs) :
    Rewords form same es fs
  | addUnknown {k : Value} (hk : ∀ key ∈ form.required ++ form.optional, k ≠ .text key) (v : Value)
    (es : List Entry) : Rewords form same es ((k, v) :: es)
  | addNull {key : Text} (hk : key ∈ form.optional) {es : List Entry}
    (hn : Entries.get? key es = none) : Rewords form same es ((.text key, .null) :: es)
  | exchange {key : Text} {v w : Value} (h : same key v w) (before after : List Entry) :
    Rewords form same (before ++ (.text key, v) :: after) (before ++ (.text key, w) :: after)

/-- The mappings differ in any number of changes, each made or unmade. -/
abbrev Alike (form : Form) (same : Text → Value → Value → Prop) :
    List Entry → List Entry → Prop := Relation.EqvGen (form.Rewords same)

/-- What a change does to the value under a key of the form. -/
inductive Under (form : Form) (same : Text → Value → Value → Prop) (key : Text) :
    Option Value → Option Value → Prop
  | kept (o : Option Value) : Under form same key o o
  | exchanged {v w : Value} (h : same key v w) : Under form same key (some v) (some w)
  | null (hk : key ∈ form.optional) : Under form same key none (some .null)

theorem Under.cons {before : List Entry} (h : form.Under same key (Entries.get? key es)
    (Entries.get? key fs)) :
    form.Under same key (Entries.get? key (before ++ es)) (Entries.get? key (before ++ fs)) := by
  induction before with
  | nil => exact h
  | cons e before ih =>
    obtain ⟨k, v⟩ := e
    by_cases hk : k = .text key
    · subst hk
      rw [List.cons_append, List.cons_append, Entries.get?, Entries.get?, if_pos rfl, if_pos rfl]
      exact .kept _
    · rwa [List.cons_append, List.cons_append, Entries.get?_cons_of_ne hk,
        Entries.get?_cons_of_ne hk]

theorem Rewords.under (h : form.Rewords same es fs) (key : Text)
    (hk : key ∈ form.required ++ form.optional) :
    form.Under same key (Entries.get? key es) (Entries.get? key fs) := by
  cases h with
  | reorder hn h =>
    rw [Entries.get?_perm h hn]
    exact .kept _
  | addUnknown hu v es =>
    rw [Entries.get?_cons_of_ne (hu key hk)]
    exact .kept _
  | @addNull k ho es hn =>
    by_cases hkey : k = key
    · subst hkey
      rw [hn, Entries.get?, if_pos rfl]
      exact .null ho
    · rw [Entries.get?_cons_of_ne (by simpa using hkey)]
      exact .kept _
  | @exchange k v w h before after =>
    refine Under.cons ?_
    by_cases hkey : k = key
    · subst hkey
      rw [Entries.get?, Entries.get?, if_pos rfl, if_pos rfl]
      exact .exchanged h
    · rw [Entries.get?_cons_of_ne (by simpa using hkey),
        Entries.get?_cons_of_ne (by simpa using hkey)]
      exact .kept _

theorem Rewords.stored (h : form.Rewords same es fs) (key : Text)
    (hk : key ∈ form.required ++ form.optional) :
    stored key es = stored key fs ∨ same key (stored key es) (stored key fs) := by
  have hu := h.under key hk
  unfold Overrides.stored
  revert hu
  generalize Entries.get? key es = o
  generalize Entries.get? key fs = p
  intro hu
  cases hu with
  | kept => exact .inl rfl
  | exchanged h => exact .inr h
  | null => exact .inl rfl

/-- What no change changes is the same in mappings that are alike. -/
theorem Alike.congr {α : Type} {f : List Entry → α} (h : form.Alike same es fs)
    (hf : ∀ es fs, form.Rewords same es fs → f es = f fs) : f es = f fs := by
  induction h with
  | rel es fs h => exact hf es fs h
  | refl es => rfl
  | symm es fs _ ih => exact ih.symm
  | trans es fs gs _ _ ih₁ ih₂ => exact ih₁.trans ih₂

-- ---------------------------------------------------------------------------
-- What is asked
-- ---------------------------------------------------------------------------

/-- Under a key where no values are exchanged, and which has to be there, nothing changes. -/
theorem Under.eq_of_required {o p : Option Value} (h : form.Under same key o p)
    (hk : key ∉ form.optional) (hs : ∀ v w, ¬same key v w) : o = p := by
  cases h with
  | kept => rfl
  | exchanged h => exact absurd h (hs _ _)
  | null ho => exact absurd ho hk

theorem Under.optional_eq {α : Type} {o p : Option Value} (h : form.Under same key o p)
    (hs : ∀ v w, ¬same key v w) (check : Value → Except Fault α) :
    Field.optional check o = Field.optional check p := by
  cases h with
  | kept => rfl
  | exchanged h => exact absurd h (hs _ _)
  | null => rfl

/-- The values are the same, or they are mappings that are alike. -/
inductive SameValue (form : Form) (same : Text → Value → Value → Prop) : Value → Value → Prop
  | refl (v : Value) : SameValue form same v v
  | map {es fs : List Entry} (h : form.Alike same es fs) : SameValue form same (.map es) (.map fs)

end Form

end ConnectionProfile
