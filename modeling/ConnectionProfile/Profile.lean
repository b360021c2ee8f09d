import ConnectionProfile.Credentials
import ConnectionProfile.Pin
import ConnectionProfile.Uri.Normal

/-!
# Profiles

How to reach a home server and its identity server, and what to say there. Addresses are checked
and brought to their normal form when a profile is created, and never afterwards.
-/

namespace ConnectionProfile

structure Profile where
  /-- A text in every new profile; it can be set to any value. -/
  server : Value
  /-- As `server`; null stands for the home server. -/
  identity : Value
  credentials : Option Credentials
  pins : List Pin

namespace Profile

/-- Records an error that shows a value. The log drops the record if the value cannot be written. -/
def logShowing {ε : Type} (shown : Value) (text : Text) : Logged ε Unit :=
  ⟨if shown.isWritable then [⟨.error, .profile, text⟩] else [], .ok ()⟩

/-- What the refusal of an address fails with. -/
def refusal (address : Value) (cause : InvalidProfile) : InvalidProfile :=
  if address.isWritable then cause else .unwritable

def refuse {α : Type} (address : Value) (text : Text) (cause : InvalidProfile) :
    Logged InvalidProfile α := do
  logShowing address text
  Logged.fail (refusal address cause)

/-- The home server has to be a text with a supported scheme. -/
def requireServer (server : Value) : Logged InvalidProfile Text :=
  match server with
  | .text uri =>
    if Uri.hasSupportedScheme server then pure uri else refuseServer
  | _ => refuseServer
where
  refuseServer : Logged InvalidProfile Text :=
    refuse server ("Invalid home server URI: " ++ server.plain) (.homeServer server)

/-- The identity server may be absent, and may have any scheme. -/
def requireIdentity : Value → Logged InvalidProfile (Option Text)
  | .null => pure none
  | .text uri => pure (some uri)
  | v => refuse v ("Identity server URI is not a string: " ++ v.quoted) (.identityServer v)

def normalizeIdentity : Option Text → Logged InvalidProfile (Option Text)
  | none => pure none
  | some uri => do return some (← Uri.normalize "identity server" uri)

def create (server identity : Value) (credentials : Option Credentials) (pins : List Pin) :
    Logged InvalidProfile Profile := do
  let serverUri ← requireServer server
  let identityUri ← requireIdentity identity
  let serverUri ← Uri.normalize "home server" serverUri
  let identityUri ← normalizeIdentity identityUri
  return ⟨.text serverUri, .ofTextOption identityUri, credentials, pins⟩

/-- The identity server that is in force. -/
def effectiveIdentity (p : Profile) : Value :=
  if p.identity.isNull then p.server else p.identity

/-- Pins are enforced elsewhere. -/
def shouldPin (_ : Profile) : Bool := false

def quotedCredentials : Option Credentials → Text
  | none => "None"
  | some c => c.quoted

/-- Whether `quoted` can show the profile. -/
def isQuotable (p : Profile) : Bool :=
  p.server.isWritable && p.identity.isWritable && p.credentials.all Credentials.isQuotable

def quoted (p : Profile) : Text :=
  "ConnectionConfig(server_uri=" ++ p.server.quoted ++ ", identity_uri=" ++ p.identity.quoted ++
    ", credentials=" ++ quotedCredentials p.credentials ++ ", certificate_pins=[" ++
    Text.joinWith ", " (p.pins.map Pin.quoted) ++ "])"

end Profile

end ConnectionProfile
