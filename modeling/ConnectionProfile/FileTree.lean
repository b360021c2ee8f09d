import ConnectionProfile.Path
import ConnectionProfile.Text.Utf8

/-!
# File trees

The files that a program can see, the directories around them, and why a path may not lead to a
file. A path without a root starts at the working directory.
-/

namespace ConnectionProfile

inductive ReadProblem where
  | missing
  | isDirectory
  | notDirectory
  | nameTooLong
  | forbidden
  /-- No path has a zero character. -/
  | zeroCharacter
  /-- A name that cannot be written in octets. -/
  | notEncodable
  /-- Any other problem of the system. -/
  | failed
  deriving DecidableEq, Repr

/-- The parts of a path from the root. -/
abbrev Location := List Text

structure FileTree where
  working : Location
  files : List (Location × Octets)
  /-- Directories that may hold no file. -/
  directories : List Location

namespace FileTree

inductive Place where
  | directory (l : Location)
  | file (content : Octets)

def isDirectory (tree : FileTree) (l : Location) : Bool :=
  l.isPrefixOf tree.working || tree.directories.any l.isPrefixOf ||
    tree.files.any fun (file, _) => l.isPrefixOf file

def maxPartLength : Nat := 255

def maxLength : Nat := 4095

def octetLength (t : Text) : Nat := (t.flatMap Utf8.encodeOne).length

/-- One part of a path, from a place that the parts before it led to. -/
def enter (tree : FileTree) (place : Place) (part : Text) : Except ReadProblem Place :=
  match place with
  | .file _ => .error .notDirectory
  | .directory l =>
    if maxPartLength < octetLength part then .error .nameTooLong
    else if part = ".." then .ok (.directory l.dropLast)
    else
      let next := l ++ [part]
      match tree.files.lookup next with
      | some content => .ok (.file content)
      | none => if tree.isDirectory next then .ok (.directory next) else .error .missing

/-- Of the surrogates, half a pair may stand for an octet that is no text. -/
def isEncodable (c : CodePoint) : Bool := !c.isSurrogate || c.between 0xDC80 0xDCFF

def read (tree : FileTree) (p : Path) : Except ReadProblem Octets := do
  if !p.toText.all isEncodable then throw .notEncodable
  if p.toText.any (·.val = 0) then throw .zeroCharacter
  if maxLength < octetLength p.toText then throw .nameTooLong
  match ← p.parts.foldlM tree.enter (.directory (if p.root = [] then tree.working else [])) with
  | .file content => return content
  | .directory _ => throw .isDirectory

end FileTree

end ConnectionProfile
