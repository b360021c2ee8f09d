import ConnectionProfile.Overrides
import ConnectionProfile.Yaml.Graph.Fill

/-!
# Overrides on shared documents

A loaded document is a mapping among other collections. Its parts can be held elsewhere as well, and
it can hold itself. Putting overrides over it makes a new mapping, which takes over what the
document holds; the document is left as it is, so that others who hold it do not see the overrides.
-/

namespace ConnectionProfile

open Yaml (Ref Contents)

def Yaml.Ref.isNull : Ref → Bool
  | .value v => v.isNull
  | .collection _ => false

/-- All collections, each at its number. A number is never given out twice. -/
abbrev Collections := Array Contents

namespace Collections

/-- The entries of a mapping. What is no mapping has none. -/
def entries (s : Collections) : Ref → List (Value × Ref)
  | .value (.map es) => es.map fun (k, v) => (k, .value v)
  | .value _ => []
  | .collection n =>
    match s[n]? with
    | some (.map es) => es
    | _ => []

/-- Puts a value into the mapping with a number. -/
def put (s : Collections) (n : Nat) (key : Text) (r : Ref) : Collections :=
  s.modify n fun
    | .map es => .map (Entries.put (.text key) r es)
    | c => c

end Collections

/-- A computation that reads collections, makes new ones and writes to them. -/
abbrev Merging := StateM Collections

namespace Merging

/-- Makes a collection, and answers its number. -/
def create (c : Contents) : Merging Nat := fun s => (s.size, s.push c)

def entries (r : Ref) : Merging (List (Value × Ref)) := fun s => (s.entries r, s)

def put (n : Nat) (key : Text) (r : Ref) : Merging Unit := fun s => ((), s.put n key r)

/-- Puts a value that is not null. -/
def putPresent (n : Nat) (key : Text) (r : Ref) : Merging Unit :=
  if r.isNull then pure () else put n key r

/-- The list of pins is a new one, which nothing else holds. -/
def putPins (n : Nat) : Option (List Pin) → Merging Unit
  | some ps => put n Profile.pinsKey (.value (.list (ps.map Pin.toDocument)))
  | none => pure ()

end Merging

namespace Overrides

namespace Shared

def firstPresent (rs : List Ref) : Ref := (rs.find? (!·.isNull)).getD (.value .null)

def stored (key : Text) (entries : List (Value × Ref)) : Ref :=
  (Entries.under? key entries).getD (.value .null)

def defaultHomeServer : Ref → Ref
  | .value v => .value (Overrides.defaultHomeServer v)
  | r => r

/-- What new credentials hold in a field. What is kept of the old ones is shared with them. -/
def fieldValue (o : Overrides) (accessToken : Value) (homeServer : Ref)
    (old : List (Value × Ref)) : Credentials.FieldName → Ref
  | .userId => firstPresent [.value o.userId, stored Credentials.FieldName.userId.key old]
  | .homeServer =>
    firstPresent [stored Credentials.FieldName.homeServer.key old, defaultHomeServer homeServer]
  | .accessToken =>
    firstPresent [.value accessToken, stored Credentials.FieldName.accessToken.key old]
  | .deviceId => firstPresent [.value o.deviceId, stored Credentials.FieldName.deviceId.key old]
  | .refreshToken => stored Credentials.FieldName.refreshToken.key old

def credentials (o : Overrides) (accessToken : Value) (homeServer : Ref)
    (old : List (Value × Ref)) : List (Value × Ref) :=
  (Credentials.FieldName.all.map fun field =>
    (Value.text field.key, fieldValue o accessToken homeServer old field)).filter
      fun e => !e.2.isNull

end Shared

open Merging in
/-- Puts overrides over the document with a number, and answers the number of the mapping that it
makes. -/
def merge (o : Overrides) (token : Option Text) (document : Nat) : Merging Nat := do
  let merged ← create (.map (← entries (.collection document)))
  let homeServer := Shared.firstPresent [.value o.homeServer,
    Shared.stored Profile.serverKey (← entries (.collection document))]
  Merging.putPresent merged Profile.serverKey homeServer
  let identityServer := Shared.firstPresent [.value o.identityServer,
    Shared.stored Profile.identityKey (← entries (.collection document))]
  Merging.putPresent merged Profile.identityKey identityServer
  Merging.putPins merged o.pins
  let accessToken := firstPresent [o.accessToken, .ofTextOption token]
  if accessToken.isNull && o.userId.isNull then return merged
  let old ← entries (Shared.stored Profile.credentialsKey (← entries (.collection document)))
  let fields ← create (.map (Shared.credentials o accessToken homeServer old))
  put merged Profile.credentialsKey (.collection fields)
  return merged

end Overrides

end ConnectionProfile
