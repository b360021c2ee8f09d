import ConnectionProfile.Calendar
import ConnectionProfile.Text.Utf8

/-!
# Values

What a stored document can hold once it is read. Mappings keep the order in which their keys
first appeared.
-/

namespace ConnectionProfile

inductive Value where
  | null
  | bool (b : Bool)
  | int (i : Int)
  | float (x : Binary64)
  | text (t : Text)
  | octets (bs : Octets)
  | list (xs : List Value)
  | map (entries : List (Value × Value))
  | set (xs : List Value)
  | pair (first second : Value)
  | date (d : Date)
  | dateTime (t : DateTime)
  deriving Inhabited

abbrev Entry := Value × Value

namespace Value

def isNull : Value → Bool
  | .null => true
  | _ => false

def ofOption : Option Value → Value
  | none => .null
  | some v => v

def ofTextOption : Option Text → Value
  | none => .null
  | some t => .text t

/-- The integer that a value counts as when it is compared with numbers. -/
def toInt? : Value → Option Int
  | .bool b => some (if b then 1 else 0)
  | .int i => some i
  | .float x => x.toInt?
  | _ => none

/-- Whether two values are one key of a mapping. Numbers are one key when they are equal, whatever
their kind. -/
def sameKey (v w : Value) : Bool :=
  match v.toInt?, w.toInt? with
  | some i, some j => i = j
  | none, none =>
    match v, w with
    | .null, .null => true
    | .float x, .float y => x = y
    | .text s, .text t => s = t
    | .octets s, .octets t => s = t
    | .date d, .date e => d = e
    | .dateTime s, .dateTime t => s.sameInstant t
    | _, _ => false
  | _, _ => false

theorem sameKey_text {v : Value} {k : Text} : v.sameKey (.text k) = true ↔ v = .text k := by
  cases v with
  | float x => cases h : x.toInt? <;> simp [sameKey, toInt?, h]
  | _ => simp [sameKey, toInt?]

/-- Collections cannot be keys, since they can change. -/
def isKey : Value → Bool
  | .list _ | .map _ | .set _ => false
  | .pair v w => v.isKey && w.isKey
  | _ => true

end Value

namespace Entries

/-- The value under a key that is a text. -/
def get? (key : Text) : List Entry → Option Value
  | [] => none
  | (.text k, v) :: es => if k = key then some v else get? key es
  | _ :: es => get? key es

/-- As `get?`, in a mapping to anything. -/
def under? {α : Type} (key : Text) : List (Value × α) → Option α
  | [] => none
  | (k, v) :: es => if k.sameKey (.text key) then some v else under? key es

/-- As `get?`, but a null counts as absent. -/
def find? (key : Text) (es : List Entry) : Option Value :=
  match get? key es with
  | some .null | none => none
  | some v => some v

/-- Replaces the value of a key in its place, or adds the key at the end. -/
def put {α : Type} (k : Value) (v : α) : List (Value × α) → List (Value × α)
  | [] => [(k, v)]
  | (l, w) :: es => if l.sameKey k then (l, v) :: es else (l, w) :: put k v es

def putText (k : Text) (v : Value) (es : List Entry) : List Entry := put (.text k) v es

@[simp] theorem get?_putText (key k : Text) (v : Value) (es : List Entry) :
    get? key (putText k v es) = if k = key then some v else get? key es := by
  unfold putText
  induction es with
  | nil => simp [put, get?]
  | cons e es ih =>
    obtain ⟨l, w⟩ := e
    unfold put
    by_cases h : l.sameKey (.text k) = true
    · obtain rfl := Value.sameKey_text.1 h
      rw [if_pos h]
      by_cases hk : k = key <;> simp [get?, hk]
    · rw [if_neg h]
      have hl : l ≠ .text k := fun hl => h (Value.sameKey_text.2 hl)
      cases l with
      | text t =>
        have ht : t ≠ k := fun ht => hl (by rw [ht])
        by_cases hk : t = key
        · subst hk
          simp [get?, Ne.symm ht]
        · simp [get?, hk, ih]
      | _ => simp [get?, ih]

/-- The mapping after the given entries were put one after the other. -/
def ofList {α : Type} (es : List (Value × α)) : List (Value × α) :=
  es.foldl (fun acc (k, v) => put k v acc) []

def keys {α : Type} (es : List (Value × α)) : List Value := es.map Prod.fst

end Entries

end ConnectionProfile
