import FilterGraph.Text.DecimalDigit

namespace FilterGraph

structure Date where
  year : Nat
  month : Nat
  day : Nat
  deriving DecidableEq, Repr

structure DateTime where
  date : Date
  hour : Nat
  minute : Nat
  second : Nat
  microsecond : Nat
  offset : Option Int
  deriving DecidableEq, Repr

inductive CalendarError where
  | year (year : Nat)
  | month
  | day
  | hour
  | minute
  | second
  | offset (minutes : Int)
  deriving DecidableEq, Repr

namespace CalendarError

def distanceText (minutes : Int) : String :=
  let days := Int.fdiv minutes 1440
  let seconds := Int.fmod minutes 1440 * 60
  let parts := (if days = 0 then [] else [s!"days={days}"]) ++
    (if seconds = 0 then [] else [s!"seconds={seconds}"])
  let shown := if parts.isEmpty then "0" else ", ".intercalate parts
  s!"datetime.timedelta({shown})"

def message : CalendarError → String
  | .year n => s!"year {n} is out of range"
  | .month => "month must be in 1..12"
  | .day => "day is out of range for month"
  | .hour => "hour must be in 0..23"
  | .minute => "minute must be in 0..59"
  | .second => "second must be in 0..59"
  | .offset minutes =>
    "offset must be a timedelta strictly between -timedelta(hours=24) and timedelta(hours=24), " ++
      s!"not {distanceText minutes}"

end CalendarError

namespace Date

def isLeapYear (year : Nat) : Bool := year % 4 == 0 && (year % 100 != 0 || year % 400 == 0)

def daysIn (year month : Nat) : Nat :=
  if month = 2 then (if isLeapYear year then 29 else 28)
  else if month = 4 || month = 6 || month = 9 || month = 11 then 30 else 31

def of (year month day : Nat) : Except CalendarError Date :=
  if year < 1 || 9999 < year then .error (.year year)
  else if month < 1 || 12 < month then .error .month
  else if day < 1 || daysIn year month < day then .error .day
  else .ok ⟨year, month, day⟩

def toText (d : Date) : String :=
  s!"{Text.decimalPadded 4 d.year}-{Text.decimalPadded 2 d.month}-{Text.decimalPadded 2 d.day}"

def dayNumber (d : Date) : Nat :=
  let years := d.year - 1
  let months := (List.range (d.month - 1)).map fun m => daysIn d.year (m + 1)
  365 * years + years / 4 - years / 100 + years / 400 + months.foldl (· + ·) 0 + d.day

def literal (d : Date) : String := s!"datetime.date({d.year}, {d.month}, {d.day})"

end Date

namespace DateTime

/-- The offset is looked at first, then the date, then the time of day. -/
def of (year month day hour minute second microsecond : Nat) (offset : Option Int) :
    Except CalendarError DateTime := do
  match offset with
  | some minutes => if minutes.natAbs ≥ 1440 then throw (.offset minutes)
  | none => pure ()
  let date ← Date.of year month day
  if 23 < hour then throw .hour
  if 59 < minute then throw .minute
  if 59 < second then throw .second
  return ⟨date, hour, minute, second, microsecond, offset⟩

def instant? (t : DateTime) : Option Int :=
  t.offset.map fun offset =>
    let minutes : Int := (t.date.dayNumber * 24 + t.hour) * 60 + t.minute
    ((minutes - offset) * 60 + t.second) * 1000000 + t.microsecond

def clockText (t : DateTime) : String :=
  let two := Text.decimalPadded 2
  s!"{two t.hour}:{two t.minute}:{two t.second}" ++
    if t.microsecond = 0 then "" else "." ++ Text.decimalPadded 6 t.microsecond

def offsetText (minutes : Int) : String :=
  let size := minutes.natAbs
  (if minutes < 0 then "-" else "+") ++
    s!"{Text.decimalPadded 2 (size / 60)}:{Text.decimalPadded 2 (size % 60)}"

def textWith (separator : String) (t : DateTime) : String :=
  t.date.toText ++ separator ++ t.clockText ++ (t.offset.map offsetText).getD ""

def documentText (t : DateTime) : String :=
  if t.offset = some 0 then { t with offset := none }.textWith "T" ++ "Z" else t.textWith "T"

def literal (t : DateTime) : String :=
  let numbers := [t.date.year, t.date.month, t.date.day, t.hour, t.minute] ++
    (if t.second = 0 && t.microsecond = 0 then [] else [t.second]) ++
    (if t.microsecond = 0 then [] else [t.microsecond])
  let zone := match t.offset with
    | none => []
    | some 0 => ["tzinfo=datetime.timezone.utc"]
    | some minutes => [s!"tzinfo=datetime.timezone({CalendarError.distanceText minutes})"]
  let shown := ", ".intercalate (numbers.map toString ++ zone)
  s!"datetime.datetime({shown})"

end DateTime
end FilterGraph
