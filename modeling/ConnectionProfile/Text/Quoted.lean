import ConnectionProfile.Text.Printable
import ConnectionProfile.Text.Utf8

/-!
# Quoted text

Text and octets as they are shown inside messages: between quotation marks, on one line, and
with everything that cannot be shown written as an escape.
-/

namespace ConnectionProfile.Quoted

/-- An apostrophe marks the ends unless the text holds one and no double quote. -/
def mark (t : Text) : CodePoint :=
  if t.elem ('\'' : CodePoint) && !t.elem ('"' : CodePoint) then '"' else '\''

def escapeOne (mark c : CodePoint) : Text :=
  if c = mark ∨ c = '\\' then ['\\', c]
  else if c = '\t' then "\\t"
  else if c = '\n' then "\\n"
  else if c = '\r' then "\\r"
  else if c.isPrintable then [c]
  else if c.val < 0x100 then "\\x" ++ Text.hex 2 c.val
  else if c.val < 0x10000 then "\\u" ++ Text.hex 4 c.val
  else "\\U" ++ Text.hex 8 c.val

def text (t : Text) : Text :=
  let m := mark t
  m :: t.flatMap (escapeOne m) ++ [m]

/-- Octets outside printable ASCII are written in base sixteen. -/
def octets (bs : Octets) : Text :=
  let t : Text := bs.map CodePoint.ofOctet
  let m := mark t
  let escape (c : CodePoint) : Text :=
    if c.val < 0x7F then escapeOne m c else "\\x" ++ Text.hex 2 c.val
  "b" ++ [m] ++ t.flatMap escape ++ [m]

end ConnectionProfile.Quoted
