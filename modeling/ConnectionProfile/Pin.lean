import ConnectionProfile.Field
import ConnectionProfile.Text.Quoted

/-!
# Certificate pins

A pin ties the hash of a public key to a host name. What the hash says is not looked at.
-/

namespace ConnectionProfile

structure Pin where
  hostname : Text
  publicKeyHash : Text
  deriving DecidableEq

namespace Pin

def hostnameKey : Text := "hostname"

def hashKey : Text := "publicHashKey"

def hostnameField : Text := "hostname"

def hashField : Text := "public_key_hash"

/-- The pin with the given fields, or everything that is wrong with them. -/
def check (hostname hash : Option Value) : Except (List Problem) Pin :=
  match Field.required Field.text hostname, Field.required Field.text hash with
  | .ok h, .ok k => .ok ⟨h, k⟩
  | h, k => .error (Field.problem hostnameField h ++ Field.problem hashField k)

def ofFields (fields : List Entry) : Except (List Problem) Pin :=
  check (Entries.get? hostnameField fields) (Entries.get? hashField fields)

def toEntries (p : Pin) : List Entry :=
  [(.text hostnameKey, .text p.hostname), (.text hashKey, .text p.publicKeyHash)]

def toDocument (p : Pin) : Value := .map p.toEntries

def quoted (p : Pin) : Text :=
  "CertificatePin(hostname=" ++ Quoted.text p.hostname ++ ", public_key_hash=" ++
    Quoted.text p.publicKeyHash ++ ")"

inductive DecodeError where
  | missingKey (key : Text)
  | invalidFormat
  deriving DecidableEq

def DecodeError.message : DecodeError → Text
  | .missingKey key => "Certificate pin is missing key " ++ Quoted.text key
  | .invalidFormat => "Invalid certificate pin format"

/-- The entry under a key that has to be there. -/
def require (key : Text) (entries : List Entry) : Logged DecodeError Value :=
  match Entries.get? key entries with
  | some v => pure v
  | none => do
    Logged.log .error .pin ("Certificate pin is missing key: " ++ Quoted.text key)
    Logged.fail (.missingKey key)

def failureOpening : Text := "Failed to parse certificate pin: "

def invalid (cause : Text) : Logged DecodeError Pin := do
  Logged.log .error .pin (failureOpening ++ cause)
  Logged.fail .invalidFormat

def decode : Value → Logged DecodeError Pin
  | .map entries => do
    let hostname ← require hostnameKey entries
    let hash ← require hashKey entries
    match check (some hostname) (some hash) with
    | .ok p => pure p
    | .error _ => invalid "<ValidationError>"
  | _ => invalid "<TypeError>"

/-- A pin on a command line: the host name, the first equals sign, the hash. Neither part is
empty. -/
def ofArgument? (t : Text) : Option Pin :=
  match t.cut? '=' with
  | some (hostname, hash) => if hostname = [] ∨ hash = [] then none else some ⟨hostname, hash⟩
  | none => none

/-- An argument that is no pin. -/
structure ArgumentError where
  argument : Text
  deriving DecidableEq

def ArgumentError.message (e : ArgumentError) : Text :=
  "Expected HOSTNAME=HASH, got " ++ Quoted.text e.argument

def ofArgument (t : Text) : Except ArgumentError Pin :=
  match ofArgument? t with
  | some p => .ok p
  | none => .error ⟨t⟩

end Pin

end ConnectionProfile
