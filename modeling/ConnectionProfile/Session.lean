import ConnectionProfile.Profile.Document

/-!
# Sessions

Several profiles in use at once. Credentials are objects that profiles can share, and each profile
owns one list of pins. Objects and lists have numbers, so that sharing can be seen; a number is
never given out twice.
-/

namespace ConnectionProfile

/-- A profile whose credentials and pins are stored under numbers. -/
structure Holder where
  server : Value
  identity : Value
  credentials : Option Nat
  pins : Nat
  deriving Inhabited

structure Session where
  holders : List Holder
  credentials : List Credentials
  pinLists : List (List Pin)
  /-- The caller's own list, from which the first profile has its pins. -/
  source : Nat
  /-- The list that was held last. -/
  held : Option Nat

namespace Session

def pinsAt (s : Session) (list : Nat) : List Pin := (s.pinLists[list]?).getD []

def pinsOf (s : Session) (h : Holder) : List Pin := s.pinsAt h.pins

def credentialsOf (s : Session) (h : Holder) : Option Credentials :=
  h.credentials.bind (s.credentials[·]?)

def view (s : Session) (h : Holder) : Profile :=
  ⟨h.server, h.identity, s.credentialsOf h, s.pinsOf h⟩

def profiles (s : Session) : List Profile := s.holders.map s.view

/-- The profile with a number. -/
def profile? (s : Session) (i : Nat) : Option Profile := (s.holders[i]?).map s.view

/-- A holder for a profile, with its own credentials object and its own list. -/
def allocate (s : Session) (p : Profile) : Session × Holder :=
  ({ s with
      credentials := s.credentials ++ p.credentials.toList
      pinLists := s.pinLists ++ [p.pins] },
    ⟨p.server, p.identity, p.credentials.map fun _ => s.credentials.length, s.pinLists.length⟩)

def setHolder (s : Session) (i : Nat) (h : Holder) : Session :=
  { s with holders := s.holders.set i h }

/-- Puts a new profile in the place of an old one. -/
def replace (s : Session) (i : Nat) (p : Profile) : Session :=
  let (s, h) := s.allocate p
  s.setHolder i h

/-- Adds a profile that shares the credentials object of another and has its own list. -/
def addSharing (s : Session) (credentials : Option Nat) (p : Profile) : Session :=
  { s with
    holders := s.holders ++ [⟨p.server, p.identity, credentials, s.pinLists.length⟩]
    pinLists := s.pinLists ++ [p.pins] }

def setPins (s : Session) (list : Nat) (pins : List Pin) : Session :=
  { s with pinLists := s.pinLists.set list pins }

def setCredentials (s : Session) (object : Nat) (c : Credentials) : Session :=
  { s with credentials := s.credentials.set object c }

/-- A session with one profile, whose list is a copy of its own. -/
def start (p : Profile) (source : List Pin) : Session :=
  let (s, h) := allocate ⟨[], [], [source], 0, none⟩ p
  { s with holders := [h] }

end Session

/-- Where a new profile comes from. -/
inductive Origin where
  | addresses (server identity : Value) (credentials : Option (List Entry))
    (pins : List (List Entry))
  | document (v : Value)
  | text (v : Value)

inductive OriginError where
  | invalidFields (problems : List Problem)
  | invalidProfile (cause : InvalidProfile)
  | document (cause : Profile.Error)
  | text (cause : Profile.ReadError)

namespace Origin

def checkCredentials : Option (List Entry) → Except (List Problem) (Option Credentials)
  | none => .ok none
  | some fields => (Credentials.ofFields fields).map some

def checkPins : List (List Entry) → Except (List Problem) (List Pin)
  | [] => .ok []
  | fields :: rest => do
    let pin ← Pin.ofFields fields
    return pin :: (← checkPins rest)

def source : Origin → List Pin
  | .addresses _ _ _ pins => (checkPins pins).toOption.getD []
  | .document _ | .text _ => []

def profile : Origin → Logged OriginError Profile
  | .addresses server identity credentials pins => do
    let credentials ← Logged.ofExcept ((checkCredentials credentials).mapError .invalidFields)
    let pins ← Logged.ofExcept ((checkPins pins).mapError .invalidFields)
    (Profile.create server identity credentials pins).mapError .invalidProfile
  | .document v => (Profile.decode v).mapError .document
  | .text v => (Profile.ofText v).mapError .text

def session (o : Origin) : Logged OriginError Session := do
  return .start (← o.profile) o.source

end Origin

end ConnectionProfile
