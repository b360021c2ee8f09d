import ConnectionProfile.Yaml.Cursor
import ConnectionProfile.Yaml.Token

/-!
# Quoted scalars

A quoted scalar may run over several lines. A line break inside counts as a space, further empty
lines count as line breaks, and blanks around a break are dropped.
-/

namespace ConnectionProfile.Yaml

/-- What was read last inside quotation marks. -/
inductive Quoting where
  /-- Blanks that count unless the line ends here. -/
  | inline (blanks : Text)
  /-- A line break, unless it was escaped, and the breaks after it. -/
  | folding (first : Option CodePoint) (breaks : Text)
  | apostrophe
  | escape
  | digits (left : Nat) (value : Nat)

namespace Quoting

/-- The text of line breaks between two lines. -/
def folded (first : Option CodePoint) (breaks : Text) : Text :=
  match first with
  | none => breaks
  | some c => if c ≠ '\n' then c :: breaks else if breaks = [] then " " else breaks

def escapes : List (CodePoint × Nat) :=
  [('0', 0x00), ('a', 0x07), ('b', 0x08), ('t', 0x09), ('\t', 0x09), ('n', 0x0A), ('v', 0x0B),
    ('f', 0x0C), ('r', 0x0D), ('e', 0x1B), (' ', 0x20), ('"', 0x22), ('\\', 0x5C), ('/', 0x2F),
    ('N', 0x85), ('_', 0xA0), ('L', 0x2028), ('P', 0x2029)]

/-- The code point that an escape stands for. -/
def escaped? (c : CodePoint) : Option CodePoint := (escapes.lookup c).bind CodePoint.ofNat?

/-- How many digits follow an escape that names a code point by its number. -/
def digitCount? (c : CodePoint) : Option Nat :=
  if c = 'x' then some 2 else if c = 'u' then some 4 else if c = 'U' then some 8 else none

def emit (t : Text) (x : Except Fault (Text × Text)) : Except Fault (Text × Text) :=
  x.map fun (u, rest) => (t ++ u, rest)

/-- What a code point that is neither blank nor break adds, and what comes after it. The closing
mark has no answer. -/
def inside (double : Bool) (c : CodePoint) : Option (Text × Quoting) :=
  if double then
    if c = '"' then none
    else if c = '\\' then some ([], .escape)
    else some ([c], .inline [])
  else if c = '\'' then some ([], .apostrophe)
  else some ([c], .inline [])

/-- The scalar up to its closing mark, and the text after the mark. -/
def read (double : Bool) : Quoting → Text → Except Fault (Text × Text)
  | .apostrophe, [] => .ok ([], [])
  | _, [] => .error .unclosed
  | .inline blanks, c :: rest =>
    if isWhite c then read double (.inline (blanks ++ [c])) rest
    else if isBreak c then
      if isDocumentBorder rest then .error .malformed
      else read double (.folding (some (breakText c)) []) rest
    else match inside double c with
      | none => .ok (blanks, rest)
      | some (t, state) => emit (blanks ++ t) (read double state rest)
  | .folding first breaks, c :: rest =>
    if isWhite c then read double (.folding first breaks) rest
    else if isBreak c then
      if isDocumentBorder rest then .error .malformed
      else read double (.folding first (breaks ++ [breakText c])) rest
    else match inside double c with
      | none => .ok (folded first breaks, rest)
      | some (t, state) => emit (folded first breaks ++ t) (read double state rest)
  | .apostrophe, c :: rest =>
    if c = '\'' then emit "'" (read double (.inline []) rest) else .ok ([], c :: rest)
  | .escape, c :: rest =>
    match escaped? c, digitCount? c with
    | some d, _ => emit [d] (read double (.inline []) rest)
    | none, some n => read double (.digits n 0) rest
    | none, none =>
      if isBreak c then
        if isDocumentBorder rest then .error .malformed
        else read double (.folding none []) rest
      else .error .malformed
  | .digits left value, c :: rest =>
    match c.digitValue? with
    | none => .error .malformed
    | some d =>
      if 16 ≤ d then .error .malformed
      else if left ≤ 1 then
        let n := value * 16 + d
        match CodePoint.ofNat? n with
        | some e => emit [e] (read double (.inline []) rest)
        | none => .error (.codePointTooLarge n)
      else read double (.digits (left - 1) (value * 16 + d)) rest

end Quoting

end ConnectionProfile.Yaml
