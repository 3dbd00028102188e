/-!
# Dates and times

Calendar dates of the years 1 to 9999, times of day to the microsecond, and the two together with
or without a distance from universal time. Text is that of ISO 8601: a fraction of a second is
written with six digits, and only when it is not zero.
-/

namespace PackageDoc

/-- A date; no more is asked of its parts than `Date.fault?` says. -/
structure Date where
  year : Nat
  month : Nat
  day : Nat
  deriving Repr, DecidableEq, Inhabited

/-- A time of day. -/
structure TimeOfDay where
  hour : Nat
  minute : Nat
  second : Nat
  microsecond : Nat
  deriving Repr, DecidableEq, Inhabited

/-- A date and time; `offset` is the distance from universal time in minutes. -/
structure Moment where
  date : Date
  time : TimeOfDay
  offset : Option Int
  deriving Repr, DecidableEq, Inhabited

/-- Why parts do not make up a date or a time. -/
inductive MomentFault where
  | year (year : Nat)
  | month
  | day
  | hour
  | minute
  | second
  | offset (minutes : Int)
  deriving Repr, DecidableEq, Inhabited

/-! ## The calendar -/

/-- Whether a year has 366 days. -/
def isLeapYear (year : Nat) : Bool :=
  year % 4 == 0 && (year % 100 != 0 || year % 400 == 0)

/-- The number of days of a month. -/
def daysInMonth (year month : Nat) : Nat :=
  if month = 2 then if isLeapYear year then 29 else 28
  else if month = 4 ∨ month = 6 ∨ month = 9 ∨ month = 11 then 30
  else 31

/-- The first part of a date that is out of its range. -/
def Date.fault? (d : Date) : Option MomentFault :=
  if d.year < 1 ∨ 9999 < d.year then some (.year d.year)
  else if d.month < 1 ∨ 12 < d.month then some .month
  else if d.day < 1 ∨ daysInMonth d.year d.month < d.day then some .day
  else none

/-- The first part of a time that is out of its range. -/
def TimeOfDay.fault? (t : TimeOfDay) : Option MomentFault :=
  if 23 < t.hour then some .hour
  else if 59 < t.minute then some .minute
  else if 59 < t.second then some .second
  else none

/-- The first part of a date and time that is out of its range; the distance from universal time
must be less than a day. -/
def Moment.fault? (m : Moment) : Option MomentFault :=
  match m.offset with
  | some o => if o.natAbs < 24 * 60 then m.date.fault? <|> m.time.fault? else some (.offset o)
  | none => m.date.fault? <|> m.time.fault?

/-- Days from the first of January of year 0 to a date. -/
def Date.dayNumber (d : Date) : Nat :=
  let y := d.year - 1
  let before := (List.range (d.month - 1)).foldl (fun n m => n + daysInMonth d.year (m + 1)) 0
  365 * y + y / 4 - y / 100 + y / 400 + before + d.day

/-- Microseconds of universal time from the beginning of the calendar. -/
def Moment.instant (m : Moment) : Int :=
  let minutes : Int := (m.date.dayNumber * 24 + m.time.hour) * 60 + m.time.minute
  ((minutes - m.offset.getD 0) * 60 + m.time.second) * 1000000 + m.time.microsecond

/-- Whether two moments compare equal: by instant when both know their distance from universal
time, by their parts when neither does. -/
def Moment.same (a b : Moment) : Bool :=
  match a.offset, b.offset with
  | none, none => a == b
  | some _, some _ => a.instant == b.instant
  | _, _ => false

/-! ## Text -/

/-- A number with zeros in front, up to a width. -/
def padded (width n : Nat) : String :=
  let ds := Nat.toDigits 10 n
  String.ofList (List.replicate (width - ds.length) '0' ++ ds)

def Date.text (d : Date) : String :=
  padded 4 d.year ++ "-" ++ padded 2 d.month ++ "-" ++ padded 2 d.day

def TimeOfDay.text (t : TimeOfDay) : String :=
  let whole := padded 2 t.hour ++ ":" ++ padded 2 t.minute ++ ":" ++ padded 2 t.second
  if t.microsecond = 0 then whole else whole ++ "." ++ padded 6 t.microsecond

/-- A distance from universal time as sign, hours and minutes. -/
def offsetText (minutes : Int) : String :=
  (if minutes < 0 then "-" else "+") ++ padded 2 (minutes.natAbs / 60) ++ ":" ++
    padded 2 (minutes.natAbs % 60)

def Moment.text (m : Moment) : String :=
  m.date.text ++ "T" ++ m.time.text ++ (m.offset.elim "" offsetText)

/-- A stretch of time as whole days and the seconds beyond them, which are never negative. -/
def spanText (minutes : Int) : String :=
  let days := Int.fdiv minutes 1440
  let seconds := Int.fmod minutes 1440 * 60
  let parts := (if days = 0 then [] else ["days=" ++ toString days]) ++
    (if seconds = 0 then [] else ["seconds=" ++ toString seconds])
  String.join ["datetime.timedelta(", String.intercalate ", " parts, ")"]

/-- What is wrong, in words. -/
def MomentFault.message : MomentFault → String
  | .year y => "year " ++ toString y ++ " is out of range"
  | .month => "month must be in 1..12"
  | .day => "day is out of range for month"
  | .hour => "hour must be in 0..23"
  | .minute => "minute must be in 0..59"
  | .second => "second must be in 0..59"
  | .offset minutes =>
    String.join ["offset must be a timedelta strictly between -timedelta(hours=24) and ",
      "timedelta(hours=24), not ", spanText minutes, "."]

end PackageDoc
