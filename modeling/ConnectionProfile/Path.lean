import ConnectionProfile.Text

/-!
# Paths

A path keeps its parts and forgets repeated slashes, single dots and a final slash.
-/

namespace ConnectionProfile

structure Path where
  /-- Empty, one slash, or exactly two. -/
  root : Text
  parts : List Text
  deriving DecidableEq

namespace Path

def ofText (t : Text) : Path :=
  let slashes := t.takeWhile (· = ('/' : CodePoint))
  let root : Text := if slashes.length = 2 then "//" else if slashes = [] then [] else "/"
  ⟨root, (t.parts '/').filter fun part => part ≠ [] && part ≠ "."⟩

def toText (p : Path) : Text :=
  if p.root = [] ∧ p.parts = [] then "." else p.root ++ Text.joinWith "/" p.parts

end Path

end ConnectionProfile
