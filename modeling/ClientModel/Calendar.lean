/-
This file holds the calendar dates and points in time that a document can contain, when their
fields name a real date, and the texts they are written as. A time may carry an offset from
universal time, in minutes.
-/

namespace ClientModel

/-- A day of the calendar. -/
structure Date where
  year : Nat
  month : Nat
  day : Nat
  deriving DecidableEq, Repr, Inhabited

/-- A point of a day, to the microsecond, with the distance from universal time where it is
known. -/
structure Timestamp where
  date : Date
  hour : Nat
  minute : Nat
  second : Nat
  microsecond : Nat
  offsetMinutes : Option Int
  deriving DecidableEq, Repr, Inhabited

/-! ### Fields that name no date -/

/-- Why fields do not form a date or a time; an offset is refused from a whole day on. -/
inductive CalendarError where
  | year (number : Nat)
  | month
  | day
  | hour
  | minute
  | second
  | offset (minutes : Int)
  deriving DecidableEq, Repr

/-- A length of time as days and the seconds of the last day, both counted from below. -/
def durationFields (minutes : Int) : String :=
  let days := minutes.fdiv 1440
  let seconds := (minutes - days * 1440) * 60
  let fields := (if days == 0 then [] else [s!"days={days}"]) ++
    (if seconds == 0 then [] else [s!"seconds={seconds}"])
  if fields.isEmpty then "datetime.timedelta(0)"
  else "datetime.timedelta(" ++ ", ".intercalate fields ++ ")"

/-- The text of an error. -/
def CalendarError.message : CalendarError → String
  | .year number => s!"year {number} is out of range"
  | .month => "month must be in 1..12"
  | .day => "day is out of range for month"
  | .hour => "hour must be in 0..23"
  | .minute => "minute must be in 0..59"
  | .second => "second must be in 0..59"
  | .offset minutes => "offset must be a timedelta strictly between -timedelta(hours=24) and " ++
      s!"timedelta(hours=24), not {durationFields minutes}."

/-- Every fourth year has a leap day, but of the centuries only every fourth. -/
def isLeapYear (year : Nat) : Bool :=
  year % 4 == 0 && (year % 100 != 0 || year % 400 == 0)

/-- The number of days of a month. -/
def daysInMonth (year month : Nat) : Nat :=
  if month == 2 then (if isLeapYear year then 29 else 28)
  else if month == 4 || month == 6 || month == 9 || month == 11 then 30 else 31

/-- The date with the given fields; the year is checked first, then the month, then the day. -/
def Date.ofFields (year month day : Nat) : Except CalendarError Date :=
  if year == 0 || 9999 < year then .error (.year year)
  else if month == 0 || 12 < month then .error .month
  else if day == 0 || daysInMonth year month < day then .error .day
  else .ok ⟨year, month, day⟩

/-- The time with the given fields; the offset is checked first, then the date, then the time. -/
def Timestamp.ofFields (year month day hour minute second microsecond : Nat)
    (offsetMinutes : Option Int) : Except CalendarError Timestamp := do
  if let some minutes := offsetMinutes then
    if minutes.natAbs ≥ 1440 then throw (.offset minutes)
  let date ← Date.ofFields year month day
  if 23 < hour then throw .hour
  if 59 < minute then throw .minute
  if 59 < second then throw .second
  pure ⟨date, hour, minute, second, microsecond, offsetMinutes⟩

/-! ### Days and instants -/

/-- The number of days before the first of January of a year. -/
def daysBeforeYear (year : Nat) : Nat :=
  let before := year - 1
  before * 365 + before / 4 - before / 100 + before / 400

/-- The number of a day, counted from the first day of the first year. -/
def Date.dayNumber (date : Date) : Nat :=
  (List.range (date.month - 1)).foldl (fun days month => days + daysInMonth date.year (month + 1))
    (daysBeforeYear date.year) + date.day

/-- The date of the day with a number: its year is the number of years that began by then, its
month the number of months of that year that did. -/
def Date.ofDayNumber (number : Nat) : Date :=
  let year := (List.range (number / 365 + 1)).countP fun before =>
    daysBeforeYear (before + 1) < number
  let start (month : Nat) := Date.dayNumber ⟨year, month, 1⟩
  let month := (List.range 12).countP fun before => start (before + 1) ≤ number
  ⟨year, month, number + 1 - start month⟩

/-- The number of the first day of 1970. -/
def epochDay : Nat := Date.dayNumber ⟨1970, 1, 1⟩

/-- The time some seconds after the start of 1970, in universal time. -/
def Timestamp.ofSeconds (seconds : Nat) : Timestamp where
  date := Date.ofDayNumber (epochDay + seconds / 86400)
  hour := seconds / 3600 % 24
  minute := seconds / 60 % 60
  second := seconds % 60
  microsecond := 0
  offsetMinutes := some 0

/-- The microseconds from the first day to a time, in the clock the time is written in. -/
def Timestamp.localMicroseconds (time : Timestamp) : Int :=
  ((((time.date.dayNumber * 24 + time.hour) * 60 + time.minute) * 60 + time.second) * 1000000 +
    time.microsecond : Nat)

/-- Two times are the same instant if both carry an offset and name the same point of universal
time, or if neither does and the fields agree. -/
def Timestamp.sameInstant (left right : Timestamp) : Bool :=
  match left.offsetMinutes, right.offsetMinutes with
  | none, none => left == right
  | some offset, some offset' =>
    left.localMicroseconds - offset * 60000000 == right.localMicroseconds - offset' * 60000000
  | _, _ => false

/-! ### Texts -/

/-- A number with zeros in front up to a width. -/
def padded (width number : Nat) : String :=
  let digits := Nat.toDigits 10 number
  String.ofList (List.replicate (width - digits.length) '0' ++ digits)

/-- A date as year, month and day. -/
def Date.text (date : Date) : String :=
  s!"{padded 4 date.year}-{padded 2 date.month}-{padded 2 date.day}"

/-- The clock of a time; a fraction is written if there is one, in six digits. -/
def Timestamp.clock (time : Timestamp) : String :=
  s!"{padded 2 time.hour}:{padded 2 time.minute}:{padded 2 time.second}" ++
    if time.microsecond == 0 then "" else "." ++ padded 6 time.microsecond

/-- An offset as a sign, hours and minutes. -/
def offsetText (minutes : Int) : String :=
  (if minutes < 0 then "-" else "+") ++
    s!"{padded 2 (minutes.natAbs / 60)}:{padded 2 (minutes.natAbs % 60)}"

/-- A date and time with a separator between them. -/
def Timestamp.text (separator : String) (time : Timestamp) : String :=
  time.date.text ++ separator ++ time.clock ++
    match time.offsetMinutes with
    | none => ""
    | some minutes => offsetText minutes

/-- A time as it stands in the name of a file. -/
def Timestamp.stamp (time : Timestamp) : String :=
  s!"{padded 4 time.date.year}{padded 2 time.date.month}{padded 2 time.date.day}-" ++
    s!"{padded 2 time.hour}{padded 2 time.minute}{padded 2 time.second}"

/-- A date and time as records are written: universal time is marked by one letter. -/
def Timestamp.recordText (time : Timestamp) : String :=
  time.date.text ++ "T" ++ time.clock ++
    match time.offsetMinutes with
    | none => ""
    | some minutes => if minutes == 0 then "Z" else offsetText minutes

/-- A date as it is shown inside a collection. -/
def Date.shown (date : Date) : String :=
  s!"datetime.date({date.year}, {date.month}, {date.day})"

/-- An offset as it is shown inside a collection. -/
def offsetShown (minutes : Int) : String :=
  if minutes == 0 then "datetime.timezone.utc"
  else s!"datetime.timezone({durationFields minutes})"

/-- A time as it is shown inside a collection: seconds and microseconds are left out at the end
where they are zero. -/
def Timestamp.shown (time : Timestamp) : String :=
  let small := if time.microsecond != 0 then [time.second, time.microsecond]
    else if time.second != 0 then [time.second] else []
  let fields := [time.date.year, time.date.month, time.date.day, time.hour, time.minute] ++ small
  let zone := match time.offsetMinutes with
    | none => ""
    | some minutes => s!", tzinfo={offsetShown minutes}"
  "datetime.datetime(" ++ ", ".intercalate (fields.map toString) ++ zone ++ ")"

end ClientModel
