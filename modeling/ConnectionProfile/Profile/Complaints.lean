import ConnectionProfile.Overrides

/-!
# Complaints of failed checks

When credentials or a pin fail their check, the error that is raised tells every problem and the value
that has it. How it words this is left open; here is what there is to word. A field that is missing has
no value, and it is told with all arguments that are given.
-/

namespace ConnectionProfile

open Overrides (stored)

/-- The items of a list. -/
def Value.items : Value → List Value
  | .list vs => vs
  | _ => []

/-- What the error of arguments that fail their check shows. -/
def Field.argumentComplaints {α : Type} (fields : List Entry) :
    Except (List Problem) α → List (Problem × Option Value)
  | .ok _ => []
  | .error problems => problems.map fun p =>
    (p, if p.fault = .missing then some (.map fields) else Entries.get? p.field fields)

namespace Credentials

def argumentComplaints (fields : List Entry) : List (Problem × Option Value) :=
  Field.argumentComplaints fields (ofFields fields)

/-- What there is to say when credentials fail their check: every problem, and the value that has
it. -/
def complaints (fields : List Entry) : List (Problem × Option Value) :=
  match ofFields fields with
  | .ok _ => []
  | .error problems => problems.map fun p => (p, Entries.get? p.field fields)

/-- What the record of the failure is told when decoding ends in a failed check. -/
def told : Value → List (Problem × Option Value)
  | .map fields =>
    match (decode (.map fields)).result with
    | .error .invalidFormat => complaints fields
    | _ => []
  | _ => []

end Credentials

namespace Pin

def argumentComplaints (fields : List Entry) : List (Problem × Option Value) :=
  Field.argumentComplaints fields (ofFields fields)

/-- The key under which a field is stored. -/
def keyOf (field : Text) : Text := if field = hostnameField then hostnameKey else hashKey

/-- What there is to say when a pin fails its check: every problem, and the value that has it. -/
def complaints (entries : List Entry) : List (Problem × Option Value) :=
  match check (Entries.get? hostnameKey entries) (Entries.get? hashKey entries) with
  | .ok _ => []
  | .error problems => problems.map fun p => (p, Entries.get? (keyOf p.field) entries)

/-- What the record of the failure is told when decoding ends in a failed check. -/
def told : Value → List (Problem × Option Value)
  | .map entries =>
    match (decode (.map entries)).result with
    | .error .invalidFormat => complaints entries
    | _ => []
  | _ => []

/-- Of several pins only the first that is bad is told of. -/
def toldOfFirst : List Value → List (Problem × Option Value)
  | [] => []
  | v :: vs =>
    match (decode v).result with
    | .ok _ => toldOfFirst vs
    | .error _ => told v

end Pin

namespace Profile

/-- What the record of the failure is told when decoding ends in a failed check. -/
def told : Value → List (Problem × Option Value)
  | .map entries =>
    match (decodeParts (.map entries)).result with
    | .error (.credentials _) => Credentials.told (stored credentialsKey entries)
    | .error (.pin _) => Pin.toldOfFirst (stored pinsKey entries).items
    | _ => []
  | _ => []

/-- What the record of the failure is told when reading a text ends in a failed check. -/
def toldOfText (text : Value) : List (Problem × Option Value) :=
  match (readJson text).result with
  | .ok v => told v
  | .error _ => []

end Profile

end ConnectionProfile
