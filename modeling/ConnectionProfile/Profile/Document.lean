import ConnectionProfile.Json.Encoding
import ConnectionProfile.Json.Layout
import ConnectionProfile.Json.Reader
import ConnectionProfile.Profile

/-!
# Profiles as documents

A profile is stored as a mapping with four keys. Decoding looks at these keys only, in a fixed
order, and a null counts as absent everywhere but at the home server.
-/

namespace ConnectionProfile.Profile

def serverKey : Text := "home_server_url"

def identityKey : Text := "identity_server_url"

def credentialsKey : Text := "credentials"

def pinsKey : Text := "certificate_pins"

def credentialsEntry : Option Credentials → List Entry
  | none => []
  | some c => [(.text credentialsKey, c.toDocument)]

def toEntries (p : Profile) : List Entry :=
  [(.text serverKey, .text p.server.plain), (.text identityKey, .text p.effectiveIdentity.plain)] ++
    credentialsEntry p.credentials ++ [(.text pinsKey, .list (p.pins.map Pin.toDocument))]

def toDocument (p : Profile) : Value := .map p.toEntries

/-- Whether the profile has a document: in it both addresses are texts, so they have to be written. -/
def hasDocument (p : Profile) : Bool := p.server.isWritable && p.effectiveIdentity.isWritable

inductive DecodeError where
  | notJson
  | notMapping
  | missingServer
  | serverNotText
  | identityNotText
  | credentialsNotMapping
  | credentials (cause : Credentials.DecodeError)
  | pinsNotList
  | pin (cause : Pin.DecodeError)
  deriving DecidableEq

namespace DecodeError

def message : DecodeError → Text
  | .notJson => "Connection config is not valid JSON"
  | .notMapping => "Connection config must be a JSON object"
  | .missingServer => "Connection config is missing key " ++ Quoted.text serverKey
  | .serverNotText => "'" ++ serverKey ++ "' must be a string"
  | .identityNotText => "'" ++ identityKey ++ "' must be a string"
  | .credentialsNotMapping => "'" ++ credentialsKey ++ "' must be a JSON object"
  | .credentials cause => cause.message
  | .pinsNotList => "'" ++ pinsKey ++ "' must be a JSON array"
  | .pin cause => cause.message

end DecodeError

def requireMapping : Value → Logged DecodeError (List Entry)
  | .map entries => pure entries
  | v => do
    logShowing v ("Connection config is not a JSON object: " ++ v.quoted)
    Logged.fail .notMapping

def decodeServer (entries : List Entry) : Logged DecodeError Text :=
  match Entries.get? serverKey entries with
  | none => do
    Logged.log .error .profile ("Connection config is missing key: " ++ Quoted.text serverKey)
    Logged.fail .missingServer
  | some (.text uri) => pure uri
  | some _ => Logged.fail .serverNotText

def decodeIdentity (entries : List Entry) : Logged DecodeError (Option Text) :=
  match Entries.find? identityKey entries with
  | none => pure none
  | some (.text uri) => pure (some uri)
  | some _ => Logged.fail .identityNotText

def decodeCredentials (entries : List Entry) : Logged DecodeError (Option Credentials) :=
  match Entries.find? credentialsKey entries with
  | none => pure none
  | some (.map fields) => do
    return some (← (Credentials.decode (.map fields)).mapError .credentials)
  | some _ => Logged.fail .credentialsNotMapping

/-- Decodes pins one by one, up to the first that is bad. -/
def decodePinList : List Value → Logged DecodeError (List Pin)
  | [] => pure []
  | v :: vs => do
    let pin ← (Pin.decode v).mapError .pin
    return pin :: (← decodePinList vs)

def decodePins (entries : List Entry) : Logged DecodeError (List Pin) :=
  match Entries.find? pinsKey entries with
  | none => pure []
  | some (.list vs) => decodePinList vs
  | some _ => Logged.fail .pinsNotList

inductive Error where
  | decode (cause : DecodeError)
  | invalid (cause : InvalidProfile)

/-- What the four keys hold. -/
structure Parts where
  server : Text
  identity : Option Text
  credentials : Option Credentials
  pins : List Pin

def decodeParts (v : Value) : Logged DecodeError Parts := do
  let entries ← requireMapping v
  let server ← decodeServer entries
  let identity ← decodeIdentity entries
  let credentials ← decodeCredentials entries
  let pins ← decodePins entries
  return ⟨server, identity, credentials, pins⟩

def decode (v : Value) : Logged Error Profile := do
  let parts ← (decodeParts v).mapError .decode
  (create (.text parts.server) (.ofTextOption parts.identity) parts.credentials parts.pins).mapError
    .invalid

/-- The document as JSON text. -/
def toText (p : Profile) (layout : Json.Layout) : Except Json.PrintError Text :=
  Json.print layout 0 p.toDocument

inductive ReadError where
  | profile (cause : Error)
  | integerTooLong
  | notText

/-- JSON text is given as text or in one of its encodings. -/
def readJson : Value → Logged ReadError Value
  | .text t => ofRead "<JSONDecodeError>" (Json.read t)
  | .octets bs =>
    match Json.textOfOctets? bs with
    | some t => ofRead "<JSONDecodeError>" (Json.read t)
    | none => notJson "<UnicodeDecodeError>"
  | _ => Logged.fail .notText
where
  notJson (cause : Text) : Logged ReadError Value := do
    Logged.log .error .profile ("Connection config is not valid JSON: " ++ cause)
    Logged.fail (.profile (.decode .notJson))
  ofRead (cause : Text) : Except Json.ReadError Value → Logged ReadError Value
    | .ok v => pure v
    | .error .malformed => notJson cause
    | .error .integerTooLong => Logged.fail .integerTooLong

def ofText (text : Value) : Logged ReadError Profile := do
  let v ← readJson text
  (decode v).mapError .profile

end ConnectionProfile.Profile
