import ConnectionProfile.Text

/-!
# YAML tokens
-/

namespace ConnectionProfile.Yaml

/-- Why a YAML text has no value. -/
inductive Fault where
  /-- The text breaks a rule of YAML. -/
  | malformed
  /-- A quoted scalar without its closing mark. -/
  | unclosed
  /-- The octets are not UTF-8. -/
  | notUnicode
  | codePointTooLarge (n : Nat)
  | versionTooLong
  /-- A tag asks for a number, a date or a truth value, and the text is none. -/
  | badNumeral
  | emptyNumeral
  | badDate
  | notATime
  | timeOfMapping
  | unknownWord
  | tooManyParts
  deriving DecidableEq, Repr

inductive Directive where
  | version (major : Nat)
  | tag (handle lead : Text)
  | other
  deriving DecidableEq

inductive Token where
  | directive (d : Directive)
  | documentStart
  | documentEnd
  | streamEnd
  | blockSequenceStart
  | blockMappingStart
  | blockEnd
  | flowSequenceStart
  | flowSequenceEnd
  | flowMappingStart
  | flowMappingEnd
  | blockEntry
  | flowEntry
  | key
  | value
  | alias (name : Text)
  | anchor (name : Text)
  /-- Without a handle the tag is complete. -/
  | tag (handle : Option Text) (suffix : Text)
  | scalar (text : Text) (plain : Bool)
  /-- No token can be read here. -/
  | fault (f : Fault)
  deriving DecidableEq

end ConnectionProfile.Yaml
