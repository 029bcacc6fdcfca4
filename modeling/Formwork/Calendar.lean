import Formwork.Text.Basic

/-!
# Dates and times

Days of the Gregorian calendar, extended to all years from 1 to 9999, and times of a day, with or
without an offset from universal time.  Dates and times are checked part by part, in order, and
the first part that is out of range is reported.
-/

namespace Formwork.Calendar

structure Date where
  year : Nat
  month : Nat
  day : Nat
  deriving Repr, DecidableEq

/-- A time on a day.  The offset from universal time, if known, is in minutes. -/
structure Moment where
  date : Date
  hour : Nat
  minute : Nat
  second : Nat
  microsecond : Nat
  offset : Option Int
  deriving Repr, DecidableEq

/-- Which part of a date or a time is out of range. -/
inductive Fault where
  | year (n : Nat)
  | month
  | day
  | hour
  | minute
  | second
  | offset (minutes : Int)
  deriving Repr, DecidableEq

/-! ## The calendar -/

def isLeap (year : Nat) : Bool := year % 4 == 0 && (year % 100 != 0 || year % 400 == 0)

def monthLength (year month : Nat) : Nat :=
  if month == 2 then (if isLeap year then 29 else 28)
  else if [4, 6, 9, 11].contains month then 30
  else 31

/-- The number of days from the first day of year 1 to a day. -/
def Date.index (d : Date) : Nat :=
  let y := d.year - 1
  let months := (List.range (d.month - 1)).map fun m => monthLength d.year (m + 1)
  365 * y + y / 4 - y / 100 + y / 400 + months.foldl (· + ·) 0 + (d.day - 1)

def checkDate (d : Date) : Except Fault Date :=
  if d.year < 1 || 9999 < d.year then .error (.year d.year)
  else if d.month < 1 || 12 < d.month then .error .month
  else if d.day < 1 || monthLength d.year d.month < d.day then .error .day
  else .ok d

/-- Checks a time; its offset must be shorter than a day. -/
def checkMoment (m : Moment) : Except Fault Moment := do
  match m.offset with
  | some o => if 24 * 60 ≤ o.natAbs then throw (.offset o)
  | none => pure ()
  let _ ← checkDate m.date
  if 23 < m.hour then throw .hour
  if 59 < m.minute then throw .minute
  if 59 < m.second then throw .second
  return m

/-- The number of microseconds from the beginning of year 1 to a time, by universal time where
the offset is known. -/
def Moment.index (m : Moment) : Int :=
  let minutes : Int := (m.date.index * 24 + m.hour) * 60 + m.minute
  ((minutes - m.offset.getD 0) * 60 + m.second) * 1000000 + m.microsecond

/-- Whether two times are the same: both by universal time or both without an offset. -/
def Moment.same (a b : Moment) : Bool :=
  a.offset.isSome == b.offset.isSome && a.index == b.index

/-! ## Texts -/

/-- A number with at least the given number of digits. -/
def padded (width n : Nat) : Text :=
  let ds := Nat.toDigits 10 n
  List.replicate (width - ds.length) '0' ++ ds

def Date.text (d : Date) : Text :=
  padded 4 d.year ++ '-' :: padded 2 d.month ++ '-' :: padded 2 d.day

def offsetText (minutes : Int) : Text :=
  (if minutes < 0 then '-' else '+') :: padded 2 (minutes.natAbs / 60) ++ ':'
    :: padded 2 (minutes.natAbs % 60)

/-- A time after its date; a fraction of a second is given if there is one. -/
def Moment.text (m : Moment) : Text :=
  m.date.text ++ ' ' :: padded 2 m.hour ++ ':' :: padded 2 m.minute ++ ':' :: padded 2 m.second
    ++ (if m.microsecond == 0 then [] else '.' :: padded 6 m.microsecond)
    ++ ((m.offset.map offsetText).getD [])

/-- A length of time in days and seconds, as the complaint about an offset shows it. -/
def spanText (minutes : Int) : Text :=
  let days := Int.fdiv minutes (24 * 60)
  let seconds := 60 * Int.fmod minutes (24 * 60)
  "datetime.timedelta(days=" ++ (toString days).toList
    ++ (if seconds == 0 then [] else ", seconds=".toList ++ (toString seconds).toList) ++ [')']

def Fault.message : Fault → Text
  | year n => "year " ++ Nat.toDigits 10 n ++ " is out of range"
  | month => "month must be in 1..12"
  | day => "day is out of range for month"
  | hour => "hour must be in 0..23"
  | minute => "minute must be in 0..59"
  | second => "second must be in 0..59"
  | offset minutes =>
    "offset must be a timedelta strictly between -timedelta(hours=24) and timedelta(hours=24), not "
      ++ spanText minutes ++ "."

end Formwork.Calendar
