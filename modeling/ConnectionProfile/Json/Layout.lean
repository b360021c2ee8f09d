import ConnectionProfile.Json.Printer

/-!
# Layouts from options

A layout is named by options. An option with a value that it cannot take is an error, and so is an
unknown option.
-/

namespace ConnectionProfile

/-- Whether a value counts as yes. -/
def Value.isYes : Value → Bool
  | .null => false
  | .bool b => b
  | .int i => i ≠ 0
  | .float x => x.toInt? ≠ some 0
  | .text t => t ≠ []
  | .octets bs => bs ≠ []
  | .list xs => !xs.isEmpty
  | .map es => !es.isEmpty
  | .set xs => !xs.isEmpty
  | .pair .. | .date _ | .dateTime _ => true

namespace Json

inductive LayoutError where
  | unknownOption (name : Value)
  | unusable
  | notTwoSeparators
  | indentTooLarge
  /-- The key separator is no text. This is found when the lines are put together, so all else has
  been written by then. -/
  | notJoined (layout : Layout)

namespace Layout

/-- The last two are known and have no effect: values hold no cycles, and every value either has a
JSON form or is refused. -/
def optionNames : List Text :=
  ["indent", "sort_keys", "ensure_ascii", "separators", "skipkeys", "allow_nan", "cls",
    "check_circular", "default"]

/-- No text is as long as the limit. -/
def indentLimit : Int := ((1 <<< 63 : Nat) : Int)

def indentOf : Value → Except LayoutError (Option Text)
  | .null => .ok none
  | .text t => .ok (some t)
  | .int i =>
    if i < -indentLimit ∨ indentLimit ≤ i then .error .indentTooLarge
    else .ok (some (List.replicate i.toNat ' '))
  | .bool b => .ok (some (if b then " " else ""))
  | _ => .error .unusable

/-- Two separators, which need not be texts yet. -/
def separatorsOf : Value → Except LayoutError (Value × Value)
  | .list [v, w] | .pair v w | .map [(v, _), (w, _)] => .ok (v, w)
  | .text [c, d] => .ok (.text [c], .text [d])
  | .octets [b, c] => .ok (.int b.toNat, .int c.toNat)
  | .list _ | .map _ | .text _ | .octets _ => .error .notTwoSeparators
  | _ => .error .unusable

/-- The layout with these separators. On one line both are looked at before anything is written. -/
def separated (layout : Layout) : Value × Value → Except LayoutError Layout
  | (.text item, .text key) => .ok { layout with itemSeparator := item, keySeparator := key }
  | (.text item, _) =>
    .error (if layout.indent.isSome then .notJoined { layout with itemSeparator := item }
      else .unusable)
  | _ => .error .unusable

/-- Without separators among the options a line does not end in a space. -/
def defaultSeparators (indent : Option Text) : Text × Text :=
  (if indent.isSome then "," else ", ", ": ")

def isKnownOption : Value → Bool
  | .text name => optionNames.elem name
  | _ => false

def ofOptions (options : List Entry) : Except LayoutError Layout := do
  match (Entries.keys options).find? (!isKnownOption ·) with
  | some name => throw (.unknownOption name)
  | none => pure ()
  if (Entries.find? "cls" options).isSome then throw .unusable
  let flag (name : Text) (usual : Bool) : Bool :=
    ((Entries.get? name options).map Value.isYes).getD usual
  let given ← (Entries.find? "separators" options).mapM separatorsOf
  let indent ← indentOf ((Entries.get? "indent" options).getD .null)
  let layout : Layout := {
    indent
    itemSeparator := (defaultSeparators indent).1
    keySeparator := (defaultSeparators indent).2
    sortKeys := flag "sort_keys" false
    ascii := flag "ensure_ascii" true
    skipKeys := flag "skipkeys" false
    allowNan := flag "allow_nan" true }
  match given with
  | none => return layout
  | some separators => layout.separated separators

end Layout

end Json

end ConnectionProfile
