import BankSwitch.Text.Basic

/-!
# Timestamps

Days, and days with a time: `2001-12-14`, `2001-12-14t21:59:43.10-05:00`, `2001-12-14 21:59:43`.
-/

namespace BankSwitch.Yaml

/-- a time of day, with its distance from universal time in seconds if one is given -/
structure DayTime where
  hour : Nat
  minute : Nat
  second : Nat
  microsecond : Nat
  offset : Option Int
  deriving DecidableEq

structure Timestamp where
  year : Nat
  month : Nat
  day : Nat
  time : Option DayTime
  /-- month and day have two digits each -/
  isPadded : Bool
  deriving DecidableEq

namespace Timestamp

/-! ## reading -/

/-- `least` to `most` digits, as many as there are -/
def digits? (least most : Nat) (s : List Char) : Option (Nat × List Char) :=
  let ds := (s.take most).takeWhile Char.isDigit
  if ds.length < least then none else some (digitsValue 10 ds, s.drop ds.length)

/-- one character -/
def mark? (c : Char) : List Char → Option (List Char)
  | d :: r => if d = c then some r else none
  | [] => none

/-- the fraction of a second in microseconds; further digits do not count -/
def fraction (s : List Char) : Nat × List Char :=
  match s with
  | '.' :: r =>
    let ds := r.takeWhile Char.isDigit
    let six := ds.take 6
    (digitsValue 10 (six ++ List.replicate (6 - six.length) '0'), r.dropWhile Char.isDigit)
  | s => (0, s)

/-- the distance from universal time, if one is given -/
def offset? (s : List Char) : Option (Option Int) :=
  if s.isEmpty then some none
  else
    let distance (r : List Char) : Option Int := do
      let (h, r) ← digits? 1 2 r
      let (m, r) ← if r.isEmpty then some (0, []) else (mark? ':' r).bind (digits? 2 2)
      if r.isEmpty then some ((h * 60 + m) * 60 : Nat) else none
    match s.dropWhile fun c => c = ' ' || c = '\t' with
    | ['Z'] => some (some 0)
    | '+' :: r => (distance r).map some
    | '-' :: r => (distance r).map fun d => some (-d)
    | _ => none

/-- a time of day behind its mark -/
def dayTime? (s : List Char) : Option DayTime := do
  let (hour, r) ← digits? 1 2 s
  let (minute, r) ← (mark? ':' r).bind (digits? 2 2)
  let (second, r) ← (mark? ':' r).bind (digits? 2 2)
  let (microsecond, r) := fraction r
  let offset ← offset? r
  return ⟨hour, minute, second, microsecond, offset⟩

/-- what stands between day and time -/
def dropTimeMark : List Char → Option (List Char)
  | 'T' :: r => some r
  | 't' :: r => some r
  | c :: r =>
    if c = ' ' || c = '\t' then some (r.dropWhile fun c => c = ' ' || c = '\t') else none
  | [] => none

def ofChars? (s : List Char) : Option Timestamp := do
  let (year, r) ← digits? 4 4 s
  let r ← mark? '-' r
  let (month, r') ← digits? 1 2 r
  let r' ← mark? '-' r'
  let (day, r'') ← digits? 1 2 r'
  if r''.isEmpty then return ⟨year, month, day, none, s.length = 10⟩
  else
    let time ← (dropTimeMark r'').bind dayTime?
    return ⟨year, month, day, some time, false⟩

/-! ## checking -/

def isLeap (year : Nat) : Bool := year % 4 = 0 && (year % 100 ≠ 0 || year % 400 = 0)

def daysIn (year month : Nat) : Nat :=
  if month = 2 then if isLeap year then 29 else 28
  else if month = 4 || month = 6 || month = 9 || month = 11 then 30 else 31

def secondsPerDay : Int := 86400

/-- a span of seconds, in whole days and what is left of a day -/
def spanText (seconds : Int) : String :=
  let days := seconds / secondsPerDay
  let left := seconds % secondsPerDay
  let parts := (if days = 0 then [] else [s!"days={days}"]) ++
    (if left = 0 then [] else [s!"seconds={left}"])
  let shown := if parts.isEmpty then "0" else ", ".intercalate parts
  s!"datetime.timedelta({shown})"

/-- why there is no such day or no such time -/
def objection (t : Timestamp) : Option String :=
  let zone := match t.time.bind DayTime.offset with
    | some d =>
      if secondsPerDay ≤ (d.natAbs : Int) then
        some ("offset must be a timedelta strictly between -timedelta(hours=24) and " ++
          s!"timedelta(hours=24), not {spanText d}.")
      else none
    | none => none
  let check (ok : Bool) (reason : String) : Option String := if ok then none else some reason
  zone <|>
  check (1 ≤ t.year) s!"year {t.year} is out of range" <|>
  check (1 ≤ t.month && t.month ≤ 12) "month must be in 1..12" <|>
  check (1 ≤ t.day && t.day ≤ daysIn t.year t.month) "day is out of range for month" <|>
  match t.time with
  | none => none
  | some d =>
    check (d.hour < 24) "hour must be in 0..23" <|>
    check (d.minute < 60) "minute must be in 0..59" <|>
    check (d.second < 60) "second must be in 0..59"

/-! ## writing -/

def padded (width n : Nat) : String :=
  let ds := toString n
  String.ofList (List.replicate (width - ds.length) '0') ++ ds

/-- the time zone as messages quote it -/
def zoneText (offset : Int) : String :=
  if offset = 0 then "datetime.timezone.utc" else s!"datetime.timezone({spanText offset})"

/-- the timestamp as messages quote it -/
def shown (t : Timestamp) : String :=
  match t.time with
  | none => s!"datetime.date({t.year}, {t.month}, {t.day})"
  | some d =>
    let fine := if d.microsecond ≠ 0 then [d.second, d.microsecond]
      else if d.second ≠ 0 then [d.second] else []
    let numbers := ([t.year, t.month, t.day, d.hour, d.minute] ++ fine).map fun n => toString n
    let zone := match d.offset with
      | none => []
      | some o => ["tzinfo=" ++ zoneText o]
    "datetime.datetime(" ++ ", ".intercalate (numbers ++ zone) ++ ")"

/-- the timestamp as bare text -/
def plain (t : Timestamp) : String :=
  let date := padded 4 t.year ++ "-" ++ padded 2 t.month ++ "-" ++ padded 2 t.day
  match t.time with
  | none => date
  | some d =>
    let fraction := if d.microsecond = 0 then "" else "." ++ padded 6 d.microsecond
    let zone := match d.offset with
      | none => ""
      | some o =>
        let minutes := o.natAbs / 60
        (if o < 0 then "-" else "+") ++ padded 2 (minutes / 60) ++ ":" ++ padded 2 (minutes % 60)
    date ++ " " ++ padded 2 d.hour ++ ":" ++ padded 2 d.minute ++ ":" ++ padded 2 d.second ++
      fraction ++ zone

end Timestamp

end BankSwitch.Yaml
