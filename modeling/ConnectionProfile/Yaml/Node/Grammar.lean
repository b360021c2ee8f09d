import ConnectionProfile.Yaml.Node
import ConnectionProfile.Yaml.Token

/-!
# From tokens to nodes

Recursive descent over the tokens. Block collections end with a token of their own; a sequence
inside a mapping may stand at the mapping's indentation and then ends with the next key.
-/

namespace ConnectionProfile.Yaml

/-- The tokens that are left, and the names in force. -/
structure Input where
  tokens : List Token
  handles : List (Text × Text)
  /-- The names of the nodes so far. -/
  anchors : List Text

namespace Input

def peek (s : Input) : Except Fault Token :=
  match s.tokens with
  | [] => .error .malformed
  | .fault f :: _ => .error f
  | t :: _ => .ok t

def pop (s : Input) : Input := { s with tokens := s.tokens.drop 1 }

end Input

/-- What may stand before the content of a node. -/
structure Properties where
  anchor : Option Text
  tag : Option (Option Text × Text)

namespace Properties

def isEmpty (p : Properties) : Bool := p.anchor.isNone && p.tag.isNone

def readAnchor (s : Input) : Except Fault (Option Text × Input) := do
  match ← s.peek with
  | .anchor a => return (some a, s.pop)
  | _ => return (none, s)

def readTag (s : Input) : Except Fault (Option (Option Text × Text) × Input) := do
  match ← s.peek with
  | .tag handle suffix => return (some (handle, suffix), s.pop)
  | _ => return (none, s)

/-- An anchor and a tag in any order. -/
def read (s : Input) : Except Fault (Properties × Input) := do
  let (anchor, s) ← readAnchor s
  let (tag, s) ← readTag s
  match anchor, tag with
  | none, some _ =>
    let (anchor, s) ← readAnchor s
    return (⟨anchor, tag⟩, s)
  | _, _ => return (⟨anchor, tag⟩, s)

/-- The tag in full. A single exclamation mark leaves the kind open. -/
def fullTag (p : Properties) (s : Input) : Except Fault (Option Text) :=
  match p.tag with
  | none => .ok none
  | some (none, suffix) => .ok (some suffix)
  | some (some handle, suffix) =>
    match s.handles.lookup handle with
    | some lead => .ok (some (lead ++ suffix))
    | none => .error .malformed

def collectionTag (tag : Option Text) (standard : Tag) : Tag :=
  match tag with
  | some t => if t = "!" then standard else Tag.ofText t
  | none => standard

def scalarTag (tag : Option Text) (text : Text) (plain : Bool) : Tag :=
  match tag with
  | some t => if t = "!" then Spelling.tag text else Tag.ofText t
  | none => if plain then Spelling.tag text else .text

/-- Makes the anchor known before the content is read. It may be given once. -/
def declare (p : Properties) (s : Input) : Except Fault Input :=
  match p.anchor with
  | none => .ok s
  | some name =>
    if s.anchors.elem name then .error .malformed
    else .ok { s with anchors := name :: s.anchors }

/-- The node under its anchor. -/
def named (p : Properties) (n : Node) : Node :=
  match p.anchor with
  | none => n
  | some name => .anchored name n

end Properties

namespace Grammar

/-- Where a node may stand. -/
inductive Place where
  | flow
  | block
  /-- As `block`, and a sequence may stand at the indentation of the mapping around it. -/
  | member
  deriving DecidableEq

def allowsBlock : Place → Bool
  | .flow => false
  | .block | .member => true

/-- Reads a node unless one of the tokens in `ends` comes first. -/
def orEmpty (ends : List Token) (read : Input → Except Fault (Node × Input)) (s : Input) :
    Except Fault (Node × Input) := do
  if ends.elem (← s.peek) then return (.empty, s) else read s

/-- Reads a value after its mark, if there is one. -/
def optionalValue (ends : List Token) (read : Input → Except Fault (Node × Input)) (s : Input) :
    Except Fault (Node × Input) := do
  if (← s.peek) = .value then orEmpty ends read s.pop else return (.empty, s)

/-- Skips the comma between two items. -/
def separator (first : Bool) (s : Input) : Except Fault Input := do
  if first then return s
  if (← s.peek) = .flowEntry then return s.pop else throw .malformed

mutual
def node : Nat → Place → Input → Except Fault (Node × Input)
  | 0, _, _ => .error .malformed
  | fuel + 1, place, s => do
    match ← s.peek with
    | .alias name =>
      if s.anchors.elem name then return (.alias name, s.pop) else throw .malformed
    | _ =>
      let (p, s) ← Properties.read s
      let tag ← p.fullTag s
      content fuel place p tag s

/-- The part of a node after its properties. -/
def content : Nat → Place → Properties → Option Text → Input → Except Fault (Node × Input)
  | 0, _, _, _, _ => .error .malformed
  | fuel + 1, place, p, tag, s => do
    let scalar (text : Text) (plain : Bool) : Node :=
      p.named (.scalar (Properties.scalarTag tag text plain) text)
    let sequence (items : List Node) : Node :=
      p.named (.sequence (Properties.collectionTag tag .sequence) items)
    let mapping (members : List (Node × Node)) : Node :=
      p.named (.mapping (Properties.collectionTag tag .mapping) members)
    match ← s.peek with
    | .scalar text plain =>
      let s ← p.declare s
      return (scalar text plain, s.pop)
    | .flowSequenceStart =>
      let s ← p.declare s
      let (items, s) ← flowItems fuel true s.pop
      return (sequence items, s)
    | .flowMappingStart =>
      let s ← p.declare s
      let (members, s) ← flowMembers fuel true s.pop
      return (mapping members, s)
    | t =>
      if t = .blockSequenceStart ∧ allowsBlock place then
        let s ← p.declare s
        let (items, s) ← blockItems fuel s.pop
        return (sequence items, s)
      else if t = .blockMappingStart ∧ allowsBlock place then
        let s ← p.declare s
        let (members, s) ← blockMembers fuel s.pop
        return (mapping members, s)
      else if t = .blockEntry ∧ place = .member then
        let s ← p.declare s
        let (items, s) ← flushItems fuel s
        return (sequence items, s)
      else if p.isEmpty then throw .malformed
      else
        let s ← p.declare s
        return (scalar [] true, s)

def blockItems : Nat → Input → Except Fault (List Node × Input)
  | 0, _ => .error .malformed
  | fuel + 1, s => do
    match ← s.peek with
    | .blockEntry =>
      let (n, s) ← orEmpty [.blockEntry, .blockEnd] (node fuel .block) s.pop
      let (ns, s) ← blockItems fuel s
      return (n :: ns, s)
    | .blockEnd => return ([], s.pop)
    | _ => throw .malformed

def flushItems : Nat → Input → Except Fault (List Node × Input)
  | 0, _ => .error .malformed
  | fuel + 1, s => do
    match ← s.peek with
    | .blockEntry =>
      let (n, s) ← orEmpty [.blockEntry, .key, .value, .blockEnd] (node fuel .block) s.pop
      let (ns, s) ← flushItems fuel s
      return (n :: ns, s)
    | _ => return ([], s)

def blockMembers : Nat → Input → Except Fault (List (Node × Node) × Input)
  | 0, _ => .error .malformed
  | fuel + 1, s => do
    match ← s.peek with
    | .key =>
      let ends := [Token.key, .value, .blockEnd]
      let (k, s) ← orEmpty ends (node fuel .member) s.pop
      let (v, s) ← optionalValue ends (node fuel .member) s
      let (ms, s) ← blockMembers fuel s
      return ((k, v) :: ms, s)
    | .blockEnd => return ([], s.pop)
    | _ => throw .malformed

def flowItems : Nat → (first : Bool) → Input → Except Fault (List Node × Input)
  | 0, _, _ => .error .malformed
  | fuel + 1, first, s => do
    if (← s.peek) = .flowSequenceEnd then return ([], s.pop)
    let s ← separator first s
    match ← s.peek with
    | .flowSequenceEnd => return ([], s.pop)
    | .key =>
      let (k, s) ← orEmpty [.value, .flowEntry, .flowSequenceEnd] (node fuel .flow) s.pop
      let (v, s) ← optionalValue [.flowEntry, .flowSequenceEnd] (node fuel .flow) s
      let (ns, s) ← flowItems fuel false s
      return (.mapping .mapping [(k, v)] :: ns, s)
    | _ =>
      let (n, s) ← node fuel .flow s
      let (ns, s) ← flowItems fuel false s
      return (n :: ns, s)

def flowMembers : Nat → (first : Bool) → Input → Except Fault (List (Node × Node) × Input)
  | 0, _, _ => .error .malformed
  | fuel + 1, first, s => do
    if (← s.peek) = .flowMappingEnd then return ([], s.pop)
    let s ← separator first s
    match ← s.peek with
    | .flowMappingEnd => return ([], s.pop)
    | .key =>
      let (k, s) ← orEmpty [.value, .flowEntry, .flowMappingEnd] (node fuel .flow) s.pop
      let (v, s) ← optionalValue [.flowEntry, .flowMappingEnd] (node fuel .flow) s
      let (ms, s) ← flowMembers fuel false s
      return ((k, v) :: ms, s)
    | _ =>
      let (k, s) ← node fuel .flow s
      let (ms, s) ← flowMembers fuel false s
      return ((k, .empty) :: ms, s)
end

def standardHandles : List (Text × Text) := [("!", "!"), ("!!", Tag.standardLead)]

/-- The handles that directives define. A version is given once and starts with one. -/
def directives : List Token → (hasVersion : Bool) → (handles : List (Text × Text)) →
    Except Fault (List (Text × Text) × List Token)
  | .directive (.version major) :: rest, hasVersion, handles =>
    if hasVersion ∨ major ≠ 1 then .error .malformed else directives rest true handles
  | .directive (.tag handle lead) :: rest, hasVersion, handles =>
    if (handles.lookup handle).isSome then .error .malformed
    else directives rest hasVersion ((handle, lead) :: handles)
  | .directive .other :: rest, hasVersion, handles => directives rest hasVersion handles
  | tokens, _, handles => .ok (handles ++ standardHandles, tokens)

def isDirective : Token → Bool
  | .directive _ => true
  | _ => false

/-- Every node takes a token of its own or stands between two. -/
def fuelFor (tokens : List Token) : Nat := 3 * tokens.length + 3

/-- The content of a document after its start mark. -/
def documentContent (s : Input) : Except Fault (Node × Input) := do
  let t ← s.peek
  if isDirective t ∨ t = .documentStart ∨ t = .documentEnd ∨ t = .streamEnd then
    return (.empty, s)
  else node (fuelFor s.tokens) .block s

/-- A document that starts with directives or with its mark. -/
def explicitDocument (s : Input) : Except Fault (Option (Node × Input)) := do
  let s := { s with tokens := s.tokens.dropWhile (· = Token.documentEnd) }
  if (← s.peek) = .streamEnd then return none
  let (handles, tokens) ← directives s.tokens false []
  let s := { s with tokens, handles }
  if (← s.peek) = .documentStart then return some (← documentContent s.pop)
  else throw .malformed

def firstDocument (s : Input) : Except Fault (Option (Node × Input)) := do
  let t ← s.peek
  if isDirective t ∨ t = .documentStart ∨ t = .streamEnd then explicitDocument s
  else return some (← node (fuelFor s.tokens) .block s)

/-- Nothing may follow the first document. The start of another one is read up to its mark. -/
def atEnd (s : Input) : Except Fault Unit := do
  let _ ← s.peek
  let s := { s with tokens := s.tokens.dropWhile (· = Token.documentEnd) }
  if (← s.peek) = .streamEnd then return ()
  let (_, tokens) ← directives s.tokens false []
  let _ ← { s with tokens }.peek
  throw .malformed

end Grammar

namespace Node

/-- The only document of a stream, or none in an empty stream. -/
def ofTokens? (tokens : List Token) : Except Fault (Option Node) := do
  match ← Grammar.firstDocument ⟨tokens, Grammar.standardHandles, []⟩ with
  | none => return none
  | some (n, s) =>
    Grammar.atEnd s
    return some n

end Node

end ConnectionProfile.Yaml
