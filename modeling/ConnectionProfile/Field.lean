import ConnectionProfile.Log
import ConnectionProfile.Value

/-!
# Checked fields

A record is built from named arguments. Every argument is checked, and all that is wrong is told
in the order of the fields. Arguments with unknown names are ignored.
-/

namespace ConnectionProfile

inductive Fault where
  | missing
  | notText
  | notUnicode
  | notOctets
  | notHashType
  | frozen
  deriving DecidableEq, Repr

structure Problem where
  field : Text
  fault : Fault
  deriving DecidableEq

namespace Fault

def code : Fault → Text
  | .missing => "missing"
  | .notText => "string_type"
  | .notUnicode => "string_unicode"
  | .notOctets => "bytes_type"
  | .notHashType => "enum"
  | .frozen => "frozen_instance"

def message : Fault → Text
  | .missing => "Field required"
  | .notText => "Input should be a valid string"
  | .notUnicode => "Input should be a valid string, unable to parse raw data as a unicode string"
  | .notOctets => "Input should be a valid bytes"
  | .notHashType => "Input should be 'sha1' or 'sha256'"
  | .frozen => "Instance is frozen"

end Fault

namespace Field

/-- A text, also when it is given by its octets. -/
def text : Value → Except Fault Text
  | .text t => .ok t
  | .octets bs =>
    match Utf8.decode? .refused bs with
    | some t => .ok t
    | none => .error .notUnicode
  | _ => .error .notText

def required (check : Value → Except Fault α) : Option Value → Except Fault α
  | some v => check v
  | none => .error .missing

def optional (check : Value → Except Fault α) : Option Value → Except Fault (Option α)
  | none | some .null => .ok none
  | some v => (check v).map some

def problem (name : Text) : Except Fault α → List Problem
  | .ok _ => []
  | .error fault => [⟨name, fault⟩]

end Field

end ConnectionProfile
