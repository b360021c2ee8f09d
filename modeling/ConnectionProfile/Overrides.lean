import ConnectionProfile.Profile.Document

/-!
# Overrides

Values from a command line and from the environment take the place of stored ones. Nothing is
checked here; that is left to the decoding of the document.
-/

namespace ConnectionProfile

structure Overrides where
  homeServer : Value
  identityServer : Value
  pins : Option (List Pin)
  userId : Value
  deviceId : Value
  accessToken : Value

namespace Overrides

def none : Overrides := ⟨.null, .null, .none, .null, .null, .null⟩

/-- The first value that is not null, or null. -/
def firstPresent (vs : List Value) : Value := (vs.find? (!·.isNull)).getD .null

/-- The value under a key, or null. -/
def stored (key : Text) (entries : List Entry) : Value := (Entries.get? key entries).getD .null

/-- Puts a value that is not null. -/
def putPresent (key : Text) (v : Value) (entries : List Entry) : List Entry :=
  if v.isNull then entries else Entries.putText key v entries

/-- The home server of new credentials: its address as it is normalized. -/
def defaultHomeServer : Value → Value
  | .text t => .text (t.withoutFinal '/')
  | v => v

def storedCredentials (document : List Entry) : List Entry :=
  match Entries.get? Profile.credentialsKey document with
  | some (.map entries) => entries
  | _ => []

/-- The credentials with the overrides, without fields that have no value. -/
def credentials (o : Overrides) (accessToken homeServer : Value) (old : List Entry) :
    List Entry :=
  let field (name : Credentials.FieldName) (v : Value) : Entry := (.text name.key, v)
  let kept (name : Credentials.FieldName) : Value := stored name.key old
  let all : List Entry := [
    field .userId (firstPresent [o.userId, kept .userId]),
    field .homeServer (firstPresent [kept .homeServer, defaultHomeServer homeServer]),
    field .accessToken (firstPresent [accessToken, kept .accessToken]),
    field .deviceId (firstPresent [o.deviceId, kept .deviceId]),
    field .refreshToken (kept .refreshToken)]
  all.filter fun (_, v) => !v.isNull

def putPins (pins : Option (List Pin)) (entries : List Entry) : List Entry :=
  match pins with
  | some ps => Entries.putText Profile.pinsKey (.list (ps.map Pin.toDocument)) entries
  | .none => entries

/-- The document with the overrides. Credentials are written anew when a user or a token is
given; `token` is the one of the environment. -/
def apply (o : Overrides) (token : Option Text) (document : List Entry) : List Entry :=
  let homeServer := firstPresent [o.homeServer, stored Profile.serverKey document]
  let identityServer := firstPresent [o.identityServer, stored Profile.identityKey document]
  let accessToken := firstPresent [o.accessToken, .ofTextOption token]
  let merged := putPins o.pins
    (putPresent Profile.identityKey identityServer
      (putPresent Profile.serverKey homeServer document))
  if accessToken.isNull && o.userId.isNull then merged
  else Entries.putText Profile.credentialsKey
    (.map (o.credentials accessToken homeServer (storedCredentials document))) merged

end Overrides

end ConnectionProfile
