import SpecGrammar.Decimal.Numeral
import SpecGrammar.Yaml.Cursor

/-!
# Dates and times

A date, or a date with a time of day, as YAML writes them. A time of day keeps the time zone that it is
written with, and two times with zones are the same if they are the same instant.
-/

namespace SpecGrammar.Yaml

structure Date where
  year : Nat
  month : Nat
  day : Nat
  deriving DecidableEq, Repr

/-- A time zone: how it is written, and how many minutes it is ahead of universal time. -/
structure Zone where
  name : List Char
  minutes : Int
  deriving DecidableEq, Repr

structure Moment where
  date : Date
  hour : Nat
  minute : Nat
  second : Nat
  microsecond : Nat := 0
  zone : Option Zone := none
  deriving DecidableEq, Repr

inductive Timestamp
  | date (d : Date)
  | moment (m : Moment)
  deriving DecidableEq, Repr

/-! ### The calendar -/

def isLeap (year : Nat) : Bool := (year % 4 == 0 && year % 100 != 0) || year % 400 == 0

def daysInMonth (year month : Nat) : Nat :=
  if month == 2 then if isLeap year then 29 else 28
  else if [4, 6, 9, 11].contains month then 30
  else 31

def Date.isPossible (d : Date) : Bool :=
  1 ≤ d.year && 1 ≤ d.month && d.month ≤ 12 && 1 ≤ d.day && d.day ≤ daysInMonth d.year d.month

/-- A time zone is less than a day away from universal time. -/
def Zone.isPossible (z : Zone) : Bool := z.minutes.natAbs < 24 * 60

def Moment.isPossible (m : Moment) : Bool :=
  m.date.isPossible && m.hour < 24 && m.minute < 60 && m.second < 60 && m.zone.all Zone.isPossible

/-- The day after; nothing after the last day of year 9999. -/
def Date.after? (d : Date) : Option Date :=
  if d.day < daysInMonth d.year d.month then some { d with day := d.day + 1 }
  else if d.month < 12 then some ⟨d.year, d.month + 1, 1⟩
  else if d.year < 9999 then some ⟨d.year + 1, 1, 1⟩
  else none

/-- A second later. -/
def Moment.after? (m : Moment) : Option Moment :=
  if m.second < 59 then some { m with second := m.second + 1 }
  else if m.minute < 59 then some { m with minute := m.minute + 1, second := 0 }
  else if m.hour < 23 then some { m with hour := m.hour + 1, minute := 0, second := 0 }
  else m.date.after?.map fun d => { m with date := d, hour := 0, minute := 0, second := 0 }

/-- The number of a day, counted from the first day of year one. -/
def Date.number (d : Date) : Nat :=
  let years := d.year - 1
  let inMonths := (List.range (d.month - 1)).foldl (fun days n => days + daysInMonth d.year (n + 1)) 0
  365 * years + years / 4 - years / 100 + years / 400 + inMonths + d.day

/-- The microseconds of universal time, counted from the first day of year one. -/
def Moment.instant (m : Moment) (z : Zone) : Int :=
  let minutes : Int := (m.date.number * 24 + m.hour) * 60 + m.minute - z.minutes
  (minutes * 60 + m.second) * 1000000 + m.microsecond

/-- Whether two times are the same. One with a zone differs from one without. -/
def Moment.isSame (a b : Moment) : Bool :=
  match a.zone, b.zone with
  | some y, some z => a.instant y == b.instant z
  | _, _ => a == b

def Timestamp.isSame : Timestamp → Timestamp → Bool
  | .moment a, .moment b => a.isSame b
  | a, b => a == b

/-! ### Reading -/

/-- At least `least` and at most `most` digits at the start of a text, and the rest. -/
def digits? (least most : Nat) (s : List Char) : Option (Nat × List Char) :=
  let ds := (s.take most).takeWhile Char.isDigit
  if ds.length < least then none
  else some (Decimal.ofDigits 10 (ds.map fun d => d.toNat - 48), s.drop ds.length)

def literal? (c : Char) : List Char → Option (List Char)
  | [] => none
  | x :: r => if x == c then some r else none

/-- The parts of a written timestamp: a date, and a time with its fraction and zone. -/
structure Written where
  date : Date
  time : Option (Nat × Nat × Nat) := none
  fraction : List Char := []
  zone : Option Zone := none

/-- A zone at the end of a timestamp, behind blanks: `Z`, or a sign, hours and perhaps minutes. The outer
option is missing for any other ending. -/
def zone? (s : List Char) : Option (Option Zone) :=
  if s.isEmpty then some none
  else
    let name := s.dropWhile fun c => c == ' ' || c == '\t'
    if name == ['Z'] then some (some ⟨name, 0⟩)
    else do
      let (hours, r) ← if (Decimal.splitSign name).1.isSome then digits? 1 2 (name.drop 1) else none
      let (minutes, r) ←
        match r with
        | [] => some (0, [])
        | r => digits? 2 2 (← literal? ':' r)
      let offset : Int := hours * 60 + minutes
      if r.isEmpty then return some ⟨name, if Decimal.isNegative name then -offset else offset⟩
      else none

/-- The parts of a timestamp. Month, day and hour may have one digit. -/
def written? (s : List Char) : Option Written := do
  let (year, r) ← digits? 4 4 s
  let (month, r) ← digits? 1 2 (← literal? '-' r)
  let (day, r) ← digits? 1 2 (← literal? '-' r)
  let date : Date := ⟨year, month, day⟩
  if r.isEmpty then return { date := date }
  let gap := r.takeWhile fun c => c == ' ' || c == '\t'
  let r ← if gap.isEmpty then (literal? 'T' r).or (literal? 't' r) else some (r.drop gap.length)
  let (hour, r) ← digits? 1 2 r
  let (minute, r) ← digits? 2 2 (← literal? ':' r)
  let (second, r) ← digits? 2 2 (← literal? ':' r)
  let fraction := ((literal? '.' r).map (·.takeWhile Char.isDigit)).getD []
  let r := ((literal? '.' r).map (·.dropWhile Char.isDigit)).getD r
  return ⟨date, some (hour, minute, second), fraction, ← zone? r⟩

/-- A text without a line feed at its end. -/
def dropFinalFeed (s : List Char) : List Char :=
  if s.getLast? == some '\n' then s.dropLast else s

/-- Whether a plain scalar is a timestamp. A date alone has two digits for month and day. -/
def isTimestamp (s : List Char) : Bool :=
  match written? s with
  | some w => w.time.isSome || s.length == 10
  | none => false

/-- A fraction of a second in microseconds; the seventh digit rounds it. -/
def microseconds (fraction : List Char) : Nat :=
  let value (c : Char) : Nat := c.toNat - 48
  let n := Decimal.ofDigits 10 (((fraction ++ List.replicate 6 '0').take 6).map value)
  n + if (fraction.drop 6).head?.any fun c => 4 < value c then 1 else 0

/-- What a timestamp says. A fraction that rounding fills up counts as a second. -/
def Written.timestamp (w : Written) : Except Fault Timestamp :=
  match w.time with
  | none => if w.date.isPossible then .ok (.date w.date) else .error .impossibleDate
  | some (hour, minute, second) =>
    let micros := microseconds w.fraction
    let moment : Moment := ⟨w.date, hour, minute, second, micros % 1000000, w.zone⟩
    if !moment.isPossible then .error .impossibleDate
    else if micros < 1000000 then .ok (.moment moment)
    else
      match moment.after? with
      | some m => .ok (.moment m)
      | none => .error .dateOutOfRange

end SpecGrammar.Yaml
