import ConnectionProfile.Number.Numeral
import ConnectionProfile.Number.Shortest
import ConnectionProfile.Text.Quoted
import ConnectionProfile.Value

/-!
# Values in messages

`quoted` shows a value so that its kind can be told; `plain` shows a text or a date as it is
and every other value as `quoted` does. Neither can show a value that is not writable.
-/

namespace ConnectionProfile

namespace Date

def quoted (d : Date) : Text :=
  "datetime.date(" ++ Text.joinWith ", " [.ofNat d.year, .ofNat d.month, .ofNat d.day] ++ ")"

end Date

namespace DateTime

def quotedOffset (minutes : Int) : Text :=
  if minutes = 0 then "datetime.timezone.utc"
  else
    let days : Text := if minutes < 0 then "days=-1, " else ""
    let seconds := (minutes * 60) % 86400
    "datetime.timezone(datetime.timedelta(" ++ days ++ "seconds=" ++ Text.ofInt seconds ++ "))"

def quoted (t : DateTime) : Text :=
  let optional := if t.microsecond ≠ 0 then [t.second, t.microsecond]
    else if t.second ≠ 0 then [t.second] else []
  let numbers := [t.date.year, t.date.month, t.date.day, t.hour, t.minute] ++ optional
  let offset := t.offset.toList.map fun o => ("tzinfo=" : Text) ++ quotedOffset o
  "datetime.datetime(" ++ Text.joinWith ", " (numbers.map Text.ofNat ++ offset) ++ ")"

end DateTime

namespace Value

mutual
def quoted : Value → Text
  | .null => "None"
  | .bool b => if b then "True" else "False"
  | .int i => .ofInt i
  | .float x => x.toText
  | .text t => Quoted.text t
  | .octets bs => Quoted.octets bs
  | .list xs => "[" ++ Text.joinWith ", " (quotedList xs) ++ "]"
  | .map es => "\x7b" ++ Text.joinWith ", " (quotedEntries es) ++ "\x7d"
  | .set [] => "set()"
  | .set xs => "\x7b" ++ Text.joinWith ", " (quotedList xs) ++ "\x7d"
  | .pair v w => "(" ++ v.quoted ++ ", " ++ w.quoted ++ ")"
  | .date d => d.quoted
  | .dateTime t => t.quoted

def quotedList : List Value → List Text
  | [] => []
  | x :: xs => x.quoted :: quotedList xs

def quotedEntries : List Entry → List Text
  | [] => []
  | (k, v) :: es => (k.quoted ++ ": " ++ v.quoted) :: quotedEntries es
end

mutual
/-- Whether every integer in the value can be written. -/
def isWritable : Value → Bool
  | .int i => Numeral.isWritable i
  | .list xs | .set xs => areWritable xs
  | .map es => areWritableEntries es
  | .pair v w => v.isWritable && w.isWritable
  | _ => true

def areWritable : List Value → Bool
  | [] => true
  | x :: xs => x.isWritable && areWritable xs

def areWritableEntries : List Entry → Bool
  | [] => true
  | (k, v) :: es => k.isWritable && v.isWritable && areWritableEntries es
end

def plain : Value → Text
  | .text t => t
  | .date d => d.toText
  | .dateTime t => Text.joinWith " " (t.toText.parts 'T')
  | v => v.quoted

end Value

end ConnectionProfile
