import ConnectionProfile.Assignment
import ConnectionProfile.Fingerprint
import ConnectionProfile.Session.Action

/-!
# Steps of a session

A step works on one profile of a session. It looks at what it needs, and then it makes its change.
Where a step would write an integer with too many digits, it fails.
-/

namespace ConnectionProfile

inductive Step where
  | setServer (v : Value)
  | setIdentity (v : Value)
  | setCredentials (fields : Option (List Entry))
  | setCredentialField (name : AttributeName) (v : Value)
  /-- Replaces the table in which the object keeps its fields by one with all five, in their order. -/
  | setCredentialTable (c : Credentials)
  | appendPin (fields : List Entry)
  | insertPin (index : Int) (fields : List Entry)
  | popPin (index : Int)
  | removePin (fields : List Entry)
  | clearPins
  | reversePins
  | countPin (fields : List Entry)
  | appendToSource (fields : List Entry)
  | holdPins
  | appendToHeld (fields : List Entry)
  | shouldPin
  | fingerprints
  | changeFingerprints
  | quote
  | encode
  | encodeText (options : List Entry)
  | reload
  | reloadText (options : List Entry)
  | fork
  | isSame (other : Nat)

inductive Reply where
  | done
  | truth (b : Bool)
  | count (n : Nat)
  | pin (p : Pin)
  | text (t : Text)
  | document (v : Value)
  | fingerprints (fs : List Fingerprint)

inductive StepError where
  | noSuchProfile
  | invalidFields (problems : List Problem)
  | invalidProfile (cause : InvalidProfile)
  | document (cause : Profile.Error)
  | text (cause : Profile.ReadError)
  | noCredentials
  | assign (cause : AssignError)
  | noSuchIndex
  /-- No list is so long that the index could be meant. -/
  | indexTooLarge
  | noSuchPin
  | unwritable
  | layout (cause : Json.LayoutError)
  | print (cause : Json.PrintError)

namespace Session

/-- The indices that lists know of. -/
def isIndex (i : Int) : Bool := -(1 <<< 63 : Nat) ≤ i && i < (1 <<< 63 : Nat)

/-- A position counted from the end when it is negative. -/
def fromEnd (size : Nat) (index : Int) : Int := if index < 0 then index + size else index

def insertAt (pins : List Pin) (index : Int) (p : Pin) : List Pin :=
  let position := min (fromEnd pins.length index).toNat pins.length
  pins.take position ++ p :: pins.drop position

def popAt? (pins : List Pin) (index : Int) : Option (Pin × List Pin) :=
  let position := fromEnd pins.length index
  if position < 0 then none
  else (pins[position.toNat]?).map (·, pins.eraseIdx position.toNat)

def removeFirst? (pins : List Pin) (p : Pin) : Option (List Pin) :=
  if pins.elem p then some (pins.erase p) else none

def checkPin (fields : List Entry) : Except StepError Pin :=
  (Pin.ofFields fields).mapError .invalidFields

def setField (c : Credentials) (name : AttributeName) (v : Value) :
    Except StepError Credentials :=
  match Credentials.FieldName.ofKey? name.text with
  | some field => .ok (c.set field v)
  | none => do
    (Assignment.toOther name).mapError .assign
    return c

def replaceCredentials (s : Session) (i : Nat) (h : Holder) :
    Option Credentials → Session
  | none => s.setHolder i { h with credentials := none }
  | some c =>
    { s with credentials := s.credentials ++ [c] }.setHolder i
      { h with credentials := some s.credentials.length }

def quote (p : Profile) : Except StepError Text :=
  if p.isQuotable then .ok p.quoted else .error .unwritable

def encode (p : Profile) : Except StepError Value :=
  if p.hasDocument then .ok p.toDocument else .error .unwritable

/-- The document comes first, and then the options. -/
def encodeText (p : Profile) (options : List Entry) : Except StepError Text := do
  let _ ← encode p
  match Json.Layout.ofOptions options with
  | .ok layout => (p.toText layout).mapError .print
  | .error (.notJoined layout) => do
    let _ ← (p.toText layout).mapError .print
    throw (.layout .unusable)
  | .error cause => throw (.layout cause)

def copy (p : Profile) : Logged InvalidProfile Profile :=
  Profile.create p.server p.effectiveIdentity p.credentials p.pins

def editPins (s : Session) (list : Nat) (f : List Pin → List Pin) : Session :=
  s.setPins list (f (s.pinsAt list))

section

open ConnectionProfile.Action (session change lift ofExcept fail)

def holder (i : Nat) : Action StepError Holder := do
  match (← session).holders[i]? with
  | some h => return h
  | none => fail .noSuchProfile

/-- The number of the credentials object, and what it holds. -/
def credentialsObject (h : Holder) : Action StepError (Nat × Credentials) := do
  match h.credentials, (← session).credentialsOf h with
  | some object, some c => return (object, c)
  | _, _ => fail .noCredentials

def perform (i : Nat) (h : Holder) : Step → Action StepError Reply
  | .setServer v => do
    change (·.setHolder i { h with server := v })
    return .done
  | .setIdentity v => do
    change (·.setHolder i { h with identity := v })
    return .done
  | .setCredentials fields => do
    let c ← ofExcept ((Origin.checkCredentials fields).mapError .invalidFields)
    change (·.replaceCredentials i h c)
    return .done
  | .setCredentialField name v => do
    let (object, c) ← credentialsObject h
    let c ← ofExcept (setField c name v)
    change (·.setCredentials object c)
    return .done
  | .setCredentialTable c => do
    let (object, _) ← credentialsObject h
    change (·.setCredentials object c)
    return .done
  | .appendPin fields => do
    let p ← ofExcept (checkPin fields)
    change (·.editPins h.pins (· ++ [p]))
    return .done
  | .insertPin index fields => do
    let p ← ofExcept (checkPin fields)
    if isIndex index then
      change (·.editPins h.pins (insertAt · index p))
      return .done
    else fail .indexTooLarge
  | .popPin index => do
    match popAt? ((← session).pinsOf h) index with
    | some (p, rest) =>
      change (·.setPins h.pins rest)
      return .pin p
    | none => fail (if isIndex index then .noSuchIndex else .indexTooLarge)
  | .removePin fields => do
    let p ← ofExcept (checkPin fields)
    match removeFirst? ((← session).pinsOf h) p with
    | some rest =>
      change (·.setPins h.pins rest)
      return .done
    | none => fail .noSuchPin
  | .clearPins => do
    change (·.setPins h.pins [])
    return .done
  | .reversePins => do
    change (·.editPins h.pins List.reverse)
    return .done
  | .countPin fields => do
    let p ← ofExcept (checkPin fields)
    return .count (((← session).pinsOf h).count p)
  | .appendToSource fields => do
    let p ← ofExcept (checkPin fields)
    change fun s => s.editPins s.source (· ++ [p])
    return .done
  | .holdPins => do
    change ({ · with held := some h.pins })
    return .done
  | .appendToHeld fields => do
    let p ← ofExcept (checkPin fields)
    match (← session).held with
    | some list =>
      change (·.editPins list (· ++ [p]))
      return .done
    | none => return .done
  | .shouldPin => return .truth ((← session).view h).shouldPin
  | .fingerprints => return .fingerprints []
  | .changeFingerprints => return .fingerprints []
  | .quote => do
    return .text (← ofExcept (quote ((← session).view h)))
  | .encode => do
    return .document (← ofExcept (encode ((← session).view h)))
  | .encodeText options => do
    return .text (← ofExcept (encodeText ((← session).view h) options))
  | .reload => do
    let v ← ofExcept (encode ((← session).view h))
    let p ← lift ((Profile.decode v).mapError .document)
    change (·.replace i p)
    return .done
  | .reloadText options => do
    let text ← ofExcept (encodeText ((← session).view h) options)
    let p ← lift ((Profile.ofText (.text text)).mapError .text)
    change (·.replace i p)
    return .done
  | .fork => do
    let p ← lift ((copy ((← session).view h)).mapError .invalidProfile)
    change (·.addSharing h.credentials p)
    return .done
  | .isSame other => do
    if other < (← session).holders.length then return .truth (i = other) else fail .noSuchProfile

/-- One step: the session after it, and what it answers. -/
def step (s : Session) (i : Nat) (step : Step) : Session × Logged StepError Reply :=
  (do perform i (← holder i) step : Action StepError Reply) s

end

end Session

end ConnectionProfile
