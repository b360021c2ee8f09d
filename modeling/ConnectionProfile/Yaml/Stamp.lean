import ConnectionProfile.Number.Numeral
import ConnectionProfile.Yaml.Cursor

/-!
# Spelled points of time

A date, or a date with a time of day and perhaps a zone. Whether the calendar has that day is not
asked here.
-/

namespace ConnectionProfile.Yaml

structure Clock where
  hour : Nat
  minute : Nat
  second : Nat
  microsecond : Nat
  /-- Minutes ahead of universal time. -/
  zone : Option Int

structure Stamp where
  year : Nat
  month : Nat
  day : Nat
  clock : Option Clock

namespace Stamp

/-- A number of at least `least` digits. No more than `most` are taken. -/
def number (least most : Nat) (t : Text) : Option (Nat × Text) :=
  let ds := (t.takeWhile CodePoint.isAsciiDigit).take most
  if ds.length < least then none
  else (Numeral.digits? 10 ds).map (·, t.drop ds.length)

def mark (c : CodePoint) (t : Text) : Option Text :=
  match t with
  | [] => none
  | d :: rest => if d = c then some rest else none

/-- The first six digits of a fraction of a second. -/
def microseconds (ds : Text) : Nat :=
  let six := ds.take 6
  ((Numeral.digits? 10 six).getD 0) * Nat.pow 10 (6 - six.length)

/-- A zone up to the end of the text: nothing, universal time, or an offset. -/
def readZone (t : Text) : Option (Option Int) :=
  match t with
  | [] => some none
  | _ =>
    match t.dropWhile isWhite with
    | [] => none
    | s :: rest =>
      if s = 'Z' then (if rest = [] then some (some 0) else none)
      else if s = '+' ∨ s = '-' then do
        let (hours, rest) ← number 1 2 rest
        let minutes ← match rest with
          | [] => some 0
          | _ => do
            let (n, rest) ← number 2 2 (← mark ':' rest)
            if rest = [] then some n else none
        let offset : Int := hours * 60 + minutes
        return some (if s = '-' then -offset else offset)
      else none

/-- A time of day after a date. -/
def readClock (t : Text) : Option Clock := do
  let t ← match t with
    | c :: rest =>
      if c = 'T' ∨ c = 't' then some rest
      else if isWhite c then some (rest.dropWhile isWhite) else none
    | [] => none
  let (hour, t) ← number 1 2 t
  let (minute, t) ← number 2 2 (← mark ':' t)
  let (second, t) ← number 2 2 (← mark ':' t)
  let (fraction, t) := match mark '.' t with
    | some rest =>
      let ds := rest.takeWhile CodePoint.isAsciiDigit
      (ds, rest.drop ds.length)
    | none => ([], t)
  return ⟨hour, minute, second, microseconds fraction, ← readZone t⟩

def read? (t : Text) : Option Stamp := do
  let (year, t) ← number 4 4 t
  let (month, t) ← number 1 2 (← mark '-' t)
  let (day, t) ← number 1 2 (← mark '-' t)
  match t with
  | [] => return ⟨year, month, day, none⟩
  | _ => return ⟨year, month, day, some (← readClock t)⟩

/-- Without a tag a date alone has two digits for the month and for the day. -/
def isSpelled (t : Text) : Bool :=
  match read? t with
  | some s => s.clock.isSome || t.length = 10
  | none => false

end Stamp

end ConnectionProfile.Yaml
