/-! Dates and moments of YAML timestamps. -/

namespace ConsulLookup.Yaml

/-- A day of the Gregorian calendar. -/
structure Date where
  year : Nat
  month : Nat
  day : Nat
  deriving DecidableEq, Repr

/-- A date with a time of day and, for a moment of a known zone, its offset from UTC in
seconds. -/
structure Moment where
  date : Date
  hour : Nat
  minute : Nat
  second : Nat
  micro : Nat
  offset : Option Int
  deriving DecidableEq, Repr

/-- Why a date or a moment does not exist. -/
inductive TimeFault where
  | year (year : Nat)
  | month
  | day
  | hour
  | minute
  | second
  | offset (seconds : Int)
  deriving DecidableEq, Repr

/-- A number with at least `width` digits, zeros in front. -/
def padded (width n : Nat) : String :=
  let ds := Nat.toDigits 10 n
  String.ofList (List.replicate (width - ds.length) '0' ++ ds)

/-- The text of an integer in decimal. -/
def signedText (n : Int) : String :=
  if n < 0 then "-" ++ Nat.repr n.natAbs else Nat.repr n.natAbs

/-- A signed duration in seconds as it is written: whole days (rounded down) and the seconds
left, each only when not zero. -/
def durationWritten (seconds : Int) : String :=
  let days := seconds / 86400
  let rest := seconds % 86400
  let fields := (if days ≠ 0 then ["days=" ++ signedText days] else []) ++
    (if rest ≠ 0 then ["seconds=" ++ signedText rest] else [])
  if fields.isEmpty then "datetime.timedelta(0)"
  else "datetime.timedelta(" ++ ", ".intercalate fields ++ ")"

/-- The message of a date or moment that does not exist. -/
def TimeFault.message : TimeFault → String
  | .year y => "year " ++ toString y ++ " is out of range"
  | .month => "month must be in 1..12"
  | .day => "day is out of range for month"
  | .hour => "hour must be in 0..23"
  | .minute => "minute must be in 0..59"
  | .second => "second must be in 0..59"
  | .offset seconds =>
    "offset must be a timedelta strictly between -timedelta(hours=24) and " ++
      "timedelta(hours=24), not " ++ durationWritten seconds ++ "."

/-- Whether a year has a 29th of February. -/
def isLeapYear (year : Nat) : Bool :=
  (year % 4 = 0 && year % 100 ≠ 0) || year % 400 = 0

/-- The days of a month of a year. -/
def daysInMonth (year month : Nat) : Nat :=
  if month = 2 then (if isLeapYear year then 29 else 28)
  else if [4, 6, 9, 11].contains month then 30 else 31

namespace Date

/-- The date of a year, month and day, when it exists: the year first, then the month, then the
day are checked. -/
def make (year month day : Nat) : Except TimeFault Date :=
  if year < 1 || year > 9999 then .error (.year year)
  else if month < 1 || month > 12 then .error .month
  else if day < 1 || day > daysInMonth year month then .error .day
  else .ok ⟨year, month, day⟩

/-- The days from the first day of year 1 to a date. -/
def ordinal (d : Date) : Nat :=
  let y := d.year - 1
  let beforeYear := 365 * y + y / 4 - y / 100 + y / 400
  let beforeMonth :=
    ((List.range (d.month - 1)).map fun m => daysInMonth d.year (m + 1)).foldl (· + ·) 0
  beforeYear + beforeMonth + d.day - 1

/-- The text of a date: `yyyy-mm-dd`. -/
def text (d : Date) : String :=
  padded 4 d.year ++ "-" ++ padded 2 d.month ++ "-" ++ padded 2 d.day

/-- The written form of a date. -/
def written (d : Date) : String :=
  "datetime.date(" ++ toString d.year ++ ", " ++ toString d.month ++ ", " ++ toString d.day ++ ")"

end Date

namespace Moment

/-- The moment of a date, a time and an offset of whole hours and minutes, when it exists: the
offset is checked first, then the date, then the hour, minute and second. -/
def make (year month day hour minute second micro : Nat) (zone : Option Int) :
    Except TimeFault Moment :=
  match zone with
  | some seconds =>
    if seconds ≤ -86400 || seconds ≥ 86400 then .error (.offset seconds)
    else checked
  | none => checked
where
  /-- The moment once its offset is known to be within a day. -/
  checked : Except TimeFault Moment :=
    match Date.make year month day with
    | .error e => .error e
    | .ok date =>
      if hour > 23 then .error .hour
      else if minute > 59 then .error .minute
      else if second > 59 then .error .second
      else .ok ⟨date, hour, minute, second, micro, zone⟩

/-- An offset as text: its sign, hours and minutes, and seconds when there are any. -/
def offsetText (seconds : Int) : String :=
  let sign := if seconds < 0 then "-" else "+"
  let n := seconds.natAbs
  sign ++ padded 2 (n / 3600) ++ ":" ++ padded 2 (n / 60 % 60) ++
    (if n % 60 = 0 then "" else ":" ++ padded 2 (n % 60))

/-- The text of a moment: its date and time, microseconds when not zero, and its offset. -/
def text (m : Moment) : String :=
  m.date.text ++ " " ++ padded 2 m.hour ++ ":" ++ padded 2 m.minute ++ ":" ++ padded 2 m.second ++
    (if m.micro = 0 then "" else "." ++ padded 6 m.micro) ++
    (m.offset.map offsetText).getD ""

/-- The written form of a zone: UTC by name, any other offset as its duration. -/
def zoneWritten (seconds : Int) : String :=
  if seconds = 0 then "datetime.timezone.utc"
  else "datetime.timezone(" ++ durationWritten seconds ++ ")"

/-- The written form of a moment: its fields down to the last that is not zero, from the second
on, and its zone. -/
def written (m : Moment) : String :=
  let time := [m.hour, m.minute] ++
    (if m.micro ≠ 0 then [m.second, m.micro] else if m.second ≠ 0 then [m.second] else [])
  let fields := [m.date.year, m.date.month, m.date.day] ++ time
  "datetime.datetime(" ++ ", ".intercalate (fields.map toString) ++
    (m.offset.map fun z => ", tzinfo=" ++ zoneWritten z).getD "" ++ ")"

/-- The second since the start of year 1 that a moment's wall clock shows. -/
def wallSecond (m : Moment) : Int :=
  (m.date.ordinal * 86400 + m.hour * 3600 + m.minute * 60 + m.second : Nat)

/-- Whether two moments are the same: two of unknown zone when their clocks agree, two of known
zones when they are the same instant; a moment of unknown zone is never one of a known zone. -/
def same (a b : Moment) : Bool :=
  match a.offset, b.offset with
  | none, none => a == b
  | some x, some y => a.wallSecond - x == b.wallSecond - y && a.micro == b.micro
  | _, _ => false

end Moment

example : (Moment.make 2001 12 14 21 59 43 100000 (some (-18000))).toOption.map Moment.written =
    some ("datetime.datetime(2001, 12, 14, 21, 59, 43, 100000, tzinfo=datetime.timezone(" ++
      "datetime.timedelta(days=-1, seconds=68400)))") := by
  decide +kernel

example : (Moment.make 2001 12 14 21 59 43 0 (some 23940)).toOption.map Moment.text =
    some "2001-12-14 21:59:43+06:39" := by
  decide +kernel

end ConsulLookup.Yaml
