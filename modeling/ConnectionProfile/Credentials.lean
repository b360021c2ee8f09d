import ConnectionProfile.Field
import ConnectionProfile.Value.Display

/-!
# Credentials

The result of a login. New credentials hold texts only, but a field can be set to any value
afterwards. Tokens are kept out of messages.
-/

namespace ConnectionProfile

structure Credentials where
  userId : Value
  homeServer : Value
  accessToken : Value
  deviceId : Value
  refreshToken : Value

namespace Credentials

/-- The fields in the order in which they are checked and shown. -/
inductive FieldName where
  | userId
  | homeServer
  | accessToken
  | deviceId
  | refreshToken
  deriving DecidableEq, Repr

namespace FieldName

def all : List FieldName := [.userId, .homeServer, .accessToken, .deviceId, .refreshToken]

/-- The name of a field is also its key in a document. -/
def key : FieldName → Text
  | .userId => "user_id"
  | .homeServer => "home_server"
  | .accessToken => "access_token"
  | .deviceId => "device_id"
  | .refreshToken => "refresh_token"

def ofKey? (t : Text) : Option FieldName := all.find? (·.key = t)

end FieldName

def get (c : Credentials) : FieldName → Value
  | .userId => c.userId
  | .homeServer => c.homeServer
  | .accessToken => c.accessToken
  | .deviceId => c.deviceId
  | .refreshToken => c.refreshToken

def set (c : Credentials) (field : FieldName) (v : Value) : Credentials :=
  match field with
  | .userId => { c with userId := v }
  | .homeServer => { c with homeServer := v }
  | .accessToken => { c with accessToken := v }
  | .deviceId => { c with deviceId := v }
  | .refreshToken => { c with refreshToken := v }

/-- Whether both have the same texts in their fields. -/
def agrees (c d : Credentials) : Bool :=
  FieldName.all.all fun field => (c.get field).sameKey (d.get field)

def ofTexts (userId homeServer accessToken : Text) (deviceId refreshToken : Option Text) :
    Credentials :=
  ⟨.text userId, .text homeServer, .text accessToken, .ofTextOption deviceId,
    .ofTextOption refreshToken⟩

/-- The credentials with the given fields, or everything that is wrong with them. -/
def check (field : FieldName → Option Value) : Except (List Problem) Credentials :=
  let userId := Field.required Field.text (field .userId)
  let homeServer := Field.required Field.text (field .homeServer)
  let accessToken := Field.required Field.text (field .accessToken)
  let deviceId := Field.optional Field.text (field .deviceId)
  let refreshToken := Field.optional Field.text (field .refreshToken)
  match userId, homeServer, accessToken, deviceId, refreshToken with
  | .ok u, .ok h, .ok a, .ok d, .ok r => .ok (ofTexts u h a d r)
  | _, _, _, _, _ =>
    .error (Field.problem FieldName.userId.key userId ++
      Field.problem FieldName.homeServer.key homeServer ++
      Field.problem FieldName.accessToken.key accessToken ++
      Field.problem FieldName.deviceId.key deviceId ++
      Field.problem FieldName.refreshToken.key refreshToken)

def ofFields (fields : List Entry) : Except (List Problem) Credentials :=
  check fun field => Entries.get? field.key fields

def entry (c : Credentials) (field : FieldName) : Entry := (.text field.key, c.get field)

/-- An optional field is written only when it is set. -/
def optionalEntry (c : Credentials) (field : FieldName) : List Entry :=
  if (c.get field).isNull then [] else [c.entry field]

def toEntries (c : Credentials) : List Entry :=
  [c.entry .userId, c.entry .homeServer, c.entry .accessToken] ++
    c.optionalEntry .refreshToken ++ c.optionalEntry .deviceId

def toDocument (c : Credentials) : Value := .map c.toEntries

/-- Whether `quoted` can show the credentials. -/
def isQuotable (c : Credentials) : Bool :=
  c.userId.isWritable && c.homeServer.isWritable && c.deviceId.isWritable

def quoted (c : Credentials) : Text :=
  "Credentials(user_id=" ++ c.userId.quoted ++ ", home_server=" ++ c.homeServer.quoted ++
    ", device_id=" ++ c.deviceId.quoted ++ ")"

inductive DecodeError where
  | missingKey (key : Text)
  | invalidFormat
  deriving DecidableEq

def DecodeError.message : DecodeError → Text
  | .missingKey key => "Credentials are missing key " ++ Quoted.text key
  | .invalidFormat => "Invalid credentials format"

/-- The entry under a key that has to be there. -/
def require (field : FieldName) (entries : List Entry) : Logged DecodeError Value :=
  match Entries.get? field.key entries with
  | some v => pure v
  | none => do
    Logged.log .error .credentials ("Credentials are missing key: " ++ Quoted.text field.key)
    Logged.fail (.missingKey field.key)

def failureOpening : Text := "Failed to parse credentials: "

def invalid (cause : Text) : Logged DecodeError Credentials := do
  Logged.log .error .credentials (failureOpening ++ cause)
  Logged.fail .invalidFormat

def decode : Value → Logged DecodeError Credentials
  | .map entries => do
    let _ ← require .userId entries
    let _ ← require .homeServer entries
    let _ ← require .accessToken entries
    match ofFields entries with
    | .ok c => pure c
    | .error _ => invalid "<ValidationError>"
  | _ => invalid "<TypeError>"

end Credentials

end ConnectionProfile
