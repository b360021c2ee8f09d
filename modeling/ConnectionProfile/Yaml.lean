import ConnectionProfile.Yaml.Loaded
import ConnectionProfile.Yaml.Node.Grammar
import ConnectionProfile.Yaml.Node.Value
import ConnectionProfile.Yaml.Token.Lexer

/-!
# Reading YAML

The value of the only document in a text. A text without a document is null.
-/

namespace ConnectionProfile.Yaml

def readText (t : Text) : Except Fault Value := do
  match ← Node.ofTokens? (tokens t) with
  | none => return .null
  | some n => n.value

/-- What is wrong first with a text that goes on with what is at fault. -/
def firstFault (t : Text) (beyond : Fault) : Fault :=
  match Node.ofTokens? (tokensBefore t beyond) with
  | .error f => f
  | .ok _ => beyond

def read (content : Octets) : Except Fault Value :=
  match Loaded.ofOctets content with
  | .whole t => readText t
  | .upTo t fault => .error (firstFault t fault)

end ConnectionProfile.Yaml
