import ConnectionProfile.Number.Numeral

/-!
# Dates and times

Days of the Gregorian calendar from year 1 to year 9999, and points of time on them, with or
without an offset from universal time.
-/

namespace ConnectionProfile

def isLeap (year : Nat) : Bool := year % 4 = 0 && (year % 100 != 0 || year % 400 = 0)

def daysInMonth (year month : Nat) : Nat :=
  if month = 2 then (if isLeap year then 29 else 28)
  else if month = 4 ∨ month = 6 ∨ month = 9 ∨ month = 11 then 30
  else 31

/-- How many days the first months of a year have together. -/
def daysInMonths (year : Nat) : Nat → Nat
  | 0 => 0
  | months + 1 => daysInMonths year months + daysInMonth year (months + 1)

structure Date where
  year : Nat
  month : Nat
  day : Nat
  year_range : 1 ≤ year ∧ year ≤ 9999
  month_range : 1 ≤ month ∧ month ≤ 12
  day_range : 1 ≤ day ∧ day ≤ daysInMonth year month
  deriving DecidableEq

namespace Date

def of? (year month day : Nat) : Option Date :=
  if h : (1 ≤ year ∧ year ≤ 9999) ∧ (1 ≤ month ∧ month ≤ 12) ∧
      1 ≤ day ∧ day ≤ daysInMonth year month
  then some ⟨year, month, day, h.1, h.2.1, h.2.2⟩ else none

/-- `2001-02-03` -/
def toText (d : Date) : Text :=
  Text.padded 4 d.year ++ "-" ++ Text.padded 2 d.month ++ "-" ++ Text.padded 2 d.day

/-- Reads what `toText` writes. -/
def ofText? (t : Text) : Option Date :=
  match (t.parts '-').map (Numeral.digits? 10) with
  | [some y, some m, some d] => of? y m d
  | _ => none

/-- Days since the last day before year 1. -/
def ordinal (d : Date) : Nat :=
  let years := d.year - 1
  years * 365 + years / 4 - years / 100 + years / 400 + daysInMonths d.year (d.month - 1) + d.day

end Date

structure DateTime where
  date : Date
  hour : Nat
  minute : Nat
  second : Nat
  microsecond : Nat
  /-- Minutes ahead of universal time. -/
  offset : Option Int
  hour_range : hour < 24
  minute_range : minute < 60
  second_range : second < 60
  microsecond_range : microsecond < 1000000
  offset_range : ∀ o ∈ offset, o.natAbs < 24 * 60
  deriving DecidableEq

namespace DateTime

def of? (date : Date) (hour minute second microsecond : Nat) (offset : Option Int) :
    Option DateTime :=
  if h : hour < 24 ∧ minute < 60 ∧ second < 60 ∧ microsecond < 1000000 ∧
      ∀ o ∈ offset, o.natAbs < 24 * 60
  then some ⟨date, hour, minute, second, microsecond, offset, h.1, h.2.1, h.2.2.1, h.2.2.2.1,
    h.2.2.2.2⟩
  else none

def offsetText (minutes : Int) : Text :=
  let sign : Text := if minutes < 0 then "-" else "+"
  sign ++ Text.padded 2 (minutes.natAbs / 60) ++ ":" ++ Text.padded 2 (minutes.natAbs % 60)

/-- `2001-12-14T21:59:43.100000-05:00`, without the fraction when it is zero. -/
def toText (t : DateTime) : Text :=
  let fraction : Text := if t.microsecond = 0 then [] else "." ++ Text.padded 6 t.microsecond
  let offset : Text := (t.offset.map offsetText).getD []
  t.date.toText ++ "T" ++ Text.padded 2 t.hour ++ ":" ++ Text.padded 2 t.minute ++ ":" ++
    Text.padded 2 t.second ++ fraction ++ offset

/-- Microseconds since the start of the calendar, on the time's own clock. -/
def clock (t : DateTime) : Int :=
  ((t.date.ordinal * 24 + t.hour) * 60 + t.minute) * 60000000 +
    (t.second * 1000000 + t.microsecond)

/-- Times with an offset agree when they name one instant; a time without one agrees only with
another such time. -/
def sameInstant (s t : DateTime) : Bool :=
  match s.offset, t.offset with
  | none, none => s.clock = t.clock
  | some a, some b => s.clock - a * 60000000 = t.clock - b * 60000000
  | _, _ => false

end DateTime

end ConnectionProfile
