namespace Columnar.Calendar

structure Date where
  year : Nat
  month : Nat
  day : Nat
  deriving DecidableEq, Repr

/-- A date with a time of day. The offset from UTC is in microseconds; without one the time is
local. -/
structure DateTime where
  date : Date
  hour : Nat
  minute : Nat
  second : Nat
  microsecond : Nat
  offset : Option Int
  deriving DecidableEq, Repr

inductive Fault
  | year (n : Nat)
  | month
  | day
  | hour
  | minute
  | second
  | offset (microseconds : Int)
  deriving DecidableEq, Repr

def isLeap (year : Nat) : Bool := year % 4 == 0 && (year % 100 != 0 || year % 400 == 0)

def daysIn (year : Nat) : Nat → Nat
  | 2 => if isLeap year then 29 else 28
  | 4 | 6 | 9 | 11 => 30
  | _ => 31

def microsecondsInSecond : Nat := 1000000
def secondsInDay : Nat := 86400

def Date.check (d : Date) : Except Fault Date :=
  if d.year < 1 ∨ 9999 < d.year then .error (.year d.year)
  else if d.month < 1 ∨ 12 < d.month then .error .month
  else if d.day < 1 ∨ daysIn d.year d.month < d.day then .error .day
  else .ok d

/-- The offset is looked at before the date, the date before the time. -/
def DateTime.check (t : DateTime) : Except Fault DateTime := do
  match t.offset with
  | some o => if secondsInDay * microsecondsInSecond ≤ o.natAbs then throw (.offset o)
  | none => pure ()
  let _ ← t.date.check
  if 23 < t.hour then throw .hour
  if 59 < t.minute then throw .minute
  if 59 < t.second then throw .second
  return t

/-- A span of whole days, rounded down, and the seconds and microseconds that remain. -/
def spanText (microseconds : Int) : String :=
  let seconds := microseconds.fdiv microsecondsInSecond
  let part (name : String) (n : Int) : List String := if n = 0 then [] else [s!"{name}={n}"]
  let parts := part "days" (seconds.fdiv secondsInDay) ++
    part "seconds" (seconds.fmod secondsInDay) ++
    part "microseconds" (microseconds.fmod microsecondsInSecond)
  "datetime.timedelta(" ++ (if parts.isEmpty then "0" else String.intercalate ", " parts) ++ ")"

def Fault.message : Fault → String
  | .year n => s!"year {n} is out of range"
  | .month => "month must be in 1..12"
  | .day => "day is out of range for month"
  | .hour => "hour must be in 0..23"
  | .minute => "minute must be in 0..59"
  | .second => "second must be in 0..59"
  | .offset o => "offset must be a timedelta strictly between -timedelta(hours=24) and " ++
      s!"timedelta(hours=24), not {spanText o}."

def padded (width n : Nat) : String :=
  let ds := Nat.toDigits 10 n
  String.ofList (List.replicate (width - ds.length) '0' ++ ds)

def Date.iso (d : Date) : String :=
  padded 4 d.year ++ "-" ++ padded 2 d.month ++ "-" ++ padded 2 d.day

def fractionText (microseconds : Nat) : String :=
  if microseconds = 0 then "" else "." ++ padded 6 microseconds

def offsetText (microseconds : Int) : String :=
  let n := microseconds.natAbs
  let seconds := n / microsecondsInSecond
  let rest := n % (60 * microsecondsInSecond)
  (if microseconds < 0 then "-" else "+") ++ padded 2 (seconds / 3600) ++ ":" ++
    padded 2 (seconds / 60 % 60) ++
    (if rest = 0 then "" else ":" ++ padded 2 (seconds % 60)) ++
    fractionText (n % microsecondsInSecond)

def DateTime.isoWith (between : String) (t : DateTime) : String :=
  t.date.iso ++ between ++ padded 2 t.hour ++ ":" ++ padded 2 t.minute ++ ":" ++
    padded 2 t.second ++ fractionText t.microsecond ++
    (match t.offset with
      | none => ""
      | some o => offsetText o)

def DateTime.iso (t : DateTime) : String := t.isoWith "T"

def Date.literal (d : Date) : String := s!"datetime.date({d.year}, {d.month}, {d.day})"

/-- Seconds are left out when they and the fraction are zero, a zero fraction always. -/
def DateTime.literal (t : DateTime) : String :=
  let fields := [t.date.year, t.date.month, t.date.day, t.hour, t.minute] ++
    (if t.second = 0 ∧ t.microsecond = 0 then [] else [t.second]) ++
    (if t.microsecond = 0 then [] else [t.microsecond])
  let zone := match t.offset with
    | none => ""
    | some o =>
      if o = 0 then ", tzinfo=datetime.timezone.utc"
      else s!", tzinfo=datetime.timezone({spanText o})"
  "datetime.datetime(" ++ String.intercalate ", " (fields.map toString) ++ zone ++ ")"

/-- Days since the first of March of the year 0, counting years from March. -/
def Date.dayNumber (d : Date) : Nat :=
  let y := if d.month ≤ 2 then d.year - 1 else d.year
  let m := if d.month ≤ 2 then d.month + 9 else d.month - 3
  365 * y + y / 4 - y / 100 + y / 400 + (153 * m + 2) / 5 + (d.day - 1)

def DateTime.clock (t : DateTime) : Int :=
  ((t.date.dayNumber * 24 + t.hour : Nat) * 60 + t.minute) * 60000000 +
    (t.second * 1000000 + t.microsecond : Nat)

/-- Times with offsets are equal when they are the same instant; a local time equals no other. -/
def DateTime.equal (a b : DateTime) : Bool :=
  match a.offset, b.offset with
  | none, none => a == b
  | some o, some p => a.clock - o == b.clock - p
  | _, _ => false

/-! Moments counted from the start of 1970, as times in UTC. -/

/-- The day with a number, which counts from the first of March of the year 0. A cycle of 400 years
has 146097 days; within it the day in question stands behind whole years that start in March. -/
def Date.ofDayNumber (n : Nat) : Date :=
  let day := n % 146097
  let year := (day - day / 1460 + day / 36524 - day / 146096) / 365
  let inYear := day - (365 * year + year / 4 - year / 100)
  let fromMarch := (5 * inYear + 2) / 153
  let month := if fromMarch < 10 then fromMarch + 3 else fromMarch - 9
  ⟨n / 146097 * 400 + year + (if month ≤ 2 then 1 else 0), month,
    inYear - (153 * fromMarch + 2) / 5 + 1⟩

def firstDay : Nat := Date.dayNumber ⟨1970, 1, 1⟩

def DateTime.ofSeconds (seconds microsecond : Nat) : DateTime :=
  ⟨.ofDayNumber (firstDay + seconds / 86400), seconds / 3600 % 24, seconds / 60 % 60, seconds % 60,
    microsecond, some 0⟩

def DateTime.utcText (t : DateTime) : String := DateTime.iso { t with offset := none } ++ "Z"

end Columnar.Calendar
