import ConnectionProfile.FileTree
import ConnectionProfile.Yaml

/-!
# Stored documents

A stored document is a file with one YAML mapping, which JSON is as well. An empty file holds an
empty mapping.
-/

namespace ConnectionProfile

inductive LoadError where
  | unreadable (problem : ReadProblem)
  | yaml (fault : Yaml.Fault)
  | notMapping (kind : Text)

namespace Stored

/-- What kind of value a document is. -/
def kind : Value → Text
  | .null => "NoneType"
  | .bool _ => "bool"
  | .int _ => "int"
  | .float _ => "float"
  | .text _ => "str"
  | .octets _ => "bytes"
  | .list _ => "list"
  | .map _ => "dict"
  | .set _ => "set"
  | .pair .. => "tuple"
  | .date _ => "date"
  | .dateTime _ => "datetime"

def ofOctets (content : Octets) : Except LoadError (List Entry) :=
  match Yaml.read content with
  | .error f => .error (.yaml f)
  | .ok .null => .ok []
  | .ok (.map entries) => .ok entries
  | .ok v => .error (.notMapping (kind v))

/-- Loads the document at a path from the files that `read` can read. -/
def load (read : Path → Except ReadProblem Octets) (path : Path) :
    Except LoadError (List Entry) :=
  match read path with
  | .error problem => .error (.unreadable problem)
  | .ok content => ofOctets content

/-- What is said of a document that is no mapping. -/
def notMappingMessage (path : Path) (kind : Text) : Text :=
  "Expected a mapping in " ++ path.toText ++ ", got " ++ kind

end Stored

end ConnectionProfile
