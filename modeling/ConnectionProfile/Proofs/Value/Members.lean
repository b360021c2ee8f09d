import ConnectionProfile.Proofs.Overrides.Merged
import ConnectionProfile.Proofs.Value.Document

/-!
# Members changed in place

A change of the values under some keys of a mapping. Keys and their order stay, so the change can be
made before or after a lookup, a put, a sort or a change of texts.
-/

namespace ConnectionProfile

variable {p : Value → Bool} {f : Value → Value}

namespace Entries

open Overrides (stored)

/-- The entries with the values under some keys changed. -/
def mapUnder (p : Value → Bool) (f : Value → Value) (es : List Entry) : List Entry :=
  es.map fun e => (e.1, if p e.1 then f e.2 else e.2)

variable {key : Text} {es : List Entry}

theorem get?_mapUnder (p : Value → Bool) (f : Value → Value) (key : Text) (es : List Entry) :
    get? key (mapUnder p f es) =
      (get? key es).map fun v => if p (.text key) then f v else v :=
  get?_map (fun e => if p e.1 then f e.2 else e.2) key es

theorem get?_mapUnder_of_pos (h : p (.text key) = true) :
    get? key (mapUnder p f es) = (get? key es).map f := by
  simp only [get?_mapUnder, h, if_true]

theorem get?_mapUnder_of_neg (h : p (.text key) = false) :
    get? key (mapUnder p f es) = get? key es := by
  simp only [get?_mapUnder, h, Bool.false_eq_true, if_false, Option.map_id']

theorem stored_mapUnder_of_neg (h : p (.text key) = false) :
    stored key (mapUnder p f es) = stored key es := by
  rw [stored, get?_mapUnder_of_neg h, stored]

theorem mapUnder_putText (k : Text) (v : Value) (es : List Entry) :
    mapUnder p f (putText k v es) =
      putText k (if p (.text k) then f v else v) (mapUnder p f es) := by
  unfold putText
  induction es with
  | nil => rfl
  | cons e es ih =>
    obtain ⟨l, w⟩ := e
    rw [put]
    by_cases hl : l.sameKey (.text k) = true
    · obtain rfl := Value.sameKey_text.1 hl
      simp only [mapUnder, List.map_cons, put, hl, if_true]
    · have ih : (put (.text k) v es).map (fun e => (e.1, if p e.1 then f e.2 else e.2)) = _ := ih
      simp only [mapUnder, List.map_cons, put, if_neg hl, ih]

/-- A change that keeps what is null does not change which entries are left out. -/
theorem mapUnder_filter (hf : ∀ v, (f v).isNull = v.isNull) (es : List Entry) :
    mapUnder p f (es.filter fun e => !e.2.isNull) =
      (mapUnder p f es).filter fun e => !e.2.isNull := by
  rw [mapUnder, mapUnder, List.filter_map]
  congr 2
  funext e
  simp only [Function.comp_apply]
  split
  · rw [hf]
  · rfl

theorem arrange_mapUnder (sort : Bool) (es : List Entry) :
    arrange sort (mapUnder p f es) = mapUnder p f (arrange sort es) :=
  arrange_map sort (fun e : Entry => if p e.1 then f e.2 else e.2) es

end Entries

namespace Value

/-- The mapping with the values under some keys changed. -/
def mapUnder (p : Value → Bool) (f : Value → Value) : Value → Value
  | .map es => .map (Entries.mapUnder p f es)
  | v => v

theorem arranged_mapUnder {sort : Bool} (hf : ∀ v, (f v).arranged sort = f (v.arranged sort))
    (v : Value) : (v.mapUnder p f).arranged sort = (v.arranged sort).mapUnder p f := by
  cases v with
  | map es =>
    have he : (Entries.mapUnder p f es).map (fun e => (e.1, e.2.arranged sort)) =
        Entries.mapUnder p f (es.map fun e => (e.1, e.2.arranged sort)) := by
      simp only [Entries.mapUnder, List.map_map, Function.comp_def, apply_ite (arranged sort), hf]
    simp only [mapUnder, arranged, arrangedMembers_eq_map, he, Entries.arrange_mapUnder]
  | _ => rfl

theorem mapTexts_mapUnder {g : Text → Text} (hf : ∀ v, (f v).mapTexts g = f (v.mapTexts g))
    (v : Value) : (v.mapUnder p f).mapTexts g = (v.mapTexts g).mapUnder p f := by
  cases v with
  | map es =>
    simp only [mapUnder, mapTexts, mapTextsMembers_eq_map, Entries.mapUnder, List.map_map,
      Function.comp_def, apply_ite (mapTexts g), hf]
  | _ => rfl

theorem mapUnder_mapUnder (g : Value → Value) (v : Value) :
    (v.mapUnder p g).mapUnder p f = v.mapUnder p fun w => f (g w) := by
  cases v with
  | map es =>
    simp only [mapUnder, Entries.mapUnder, List.map_map, Value.map.injEq]
    refine List.map_congr_left fun e _ => ?_
    cases h : p e.1 <;> simp [h]
  | _ => rfl

end Value

end ConnectionProfile
