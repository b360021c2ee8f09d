import ConnectionProfile.Digest.Sha1
import ConnectionProfile.Digest.Sha256
import ConnectionProfile.Field
import ConnectionProfile.Text.Quoted

/-!
# Fingerprints

The digest of a certificate, for programs that still pin certificates and not public keys.
-/

namespace ConnectionProfile

inductive HashType where
  | sha1
  | sha256
  deriving DecidableEq, Repr

namespace HashType

def name : HashType → Text
  | .sha1 => "sha1"
  | .sha256 => "sha256"

def all : List HashType := [.sha1, .sha256]

def ofName? (t : Text) : Option HashType := all.find? (·.name = t)

def hash : HashType → Octets → Octets
  | .sha1 => Digest.Sha1.hash
  | .sha256 => Digest.Sha256.hash

def quoted : HashType → Text
  | .sha1 => "<HashType.SHA1: 'sha1'>"
  | .sha256 => "<HashType.SHA256: 'sha256'>"

def ofValue (v : Value) : Except Fault HashType :=
  match Field.text v with
  | .ok t =>
    if t.isUnicode then
      match ofName? t with
      | some h => .ok h
      | none => .error .notHashType
    else .error .notUnicode
  | .error _ => .error .notHashType

end HashType

structure Fingerprint where
  digest : Octets
  hashType : HashType
  deriving DecidableEq

namespace Fingerprint

def digestField : Text := "digest"

def hashTypeField : Text := "hash_type"

/-- Octets, also when they are given as text. -/
def digestOfValue : Value → Except Fault Octets
  | .octets bs => .ok bs
  | .text t =>
    match Utf8.encode? t with
    | some bs => .ok bs
    | none => .error .notUnicode
  | _ => .error .notOctets

/-- The fingerprint with the given fields, with SHA-256 when no hash type is named. -/
def ofFields (fields : List Entry) : Except (List Problem) Fingerprint :=
  let digest := Field.required digestOfValue (Entries.get? digestField fields)
  let hashType := match Entries.get? hashTypeField fields with
    | some v => HashType.ofValue v
    | none => .ok .sha256
  match digest, hashType with
  | .ok d, .ok h => .ok ⟨d, h⟩
  | d, h => .error (Field.problem digestField d ++ Field.problem hashTypeField h)

def isOf (f : Fingerprint) (certificate : Octets) : Bool := f.hashType.hash certificate = f.digest

def quoted (f : Fingerprint) : Text :=
  "Fingerprint(digest=" ++ Quoted.octets f.digest ++ ", hash_type=" ++ f.hashType.quoted ++ ")"

end Fingerprint

end ConnectionProfile
