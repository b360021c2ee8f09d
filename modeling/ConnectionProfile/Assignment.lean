import ConnectionProfile.Text

/-!
# Assignments

A part of a record can be set by its name. A record takes a new value for each field that it has,
unless it cannot be changed. Names with two underscores in front stand for what the record itself is
made of, and one more for the way in which it is assigned to: an assignment to them is none to a field.
-/

namespace ConnectionProfile

/-- Names that stand for what a record is made of. -/
def isReservedName (name : Text) : Bool := name.startsWith "__" || name = "_setattr_handler"

structure AttributeName where
  text : Text
  isOrdinary : isReservedName text = false
  deriving DecidableEq

/-- Why an assignment to a record is refused. -/
inductive AssignError where
  /-- The record cannot be changed. -/
  | frozen
  | unknownField
  /-- A part that every record has, and that can only be looked at. -/
  | readOnly
  deriving DecidableEq, Repr

namespace Assignment

/-- Names with an underscore in front mean no field. What is assigned to them is kept apart. -/
def isFieldName (name : AttributeName) : Bool := !name.text.startsWith "_"

def readOnlyParts : List Text := ["model_extra", "model_fields_set"]

/-- An assignment to a name that the record does not have as a field. -/
def toOther (name : AttributeName) : Except AssignError Unit :=
  if isFieldName name then
    .error (if readOnlyParts.elem name.text then .readOnly else .unknownField)
  else .ok ()

/-- A record that cannot be changed refuses every assignment to a field, whether it has the field
or not. -/
def toFrozen (name : AttributeName) : Except AssignError Unit :=
  if isFieldName name then .error .frozen else .ok ()

end Assignment

end ConnectionProfile
