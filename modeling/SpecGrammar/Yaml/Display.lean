import SpecGrammar.Decimal.Numeral
import SpecGrammar.Decimal.Shortest
import SpecGrammar.Text.Quoted
import SpecGrammar.Yaml.Value

/-!
# Values in messages

How a value is written in a message: texts are quoted, collections are in brackets with commas, and a
date names its parts. A collection within itself is abbreviated. A number of too many digits cannot be
written, and neither can what holds it.
-/

namespace SpecGrammar.Yaml

open Text Decimal

def listed (opening closing : Char) (items : List (List Char)) : List Char :=
  opening :: joinWith [',', ' '] items ++ [closing]

def shownInt (n : Int) : List Char :=
  (if n < 0 then ['-'] else []) ++ Nat.toDigits 10 n.natAbs

/-! ### Dates and times -/

/-- A number with zeros in front up to a width. -/
def padded (width n : Nat) : List Char :=
  let ds := Nat.toDigits 10 n
  List.replicate (width - ds.length) '0' ++ ds

/-- An offset from universal time: in days and seconds, of which the seconds are not negative. -/
def Zone.offset (z : Zone) : List Char :=
  let part (name : String) (n : Int) : List (List Char) :=
    if n = 0 then [] else [name.toList ++ '=' :: shownInt n]
  let parts := part "days" (z.minutes.fdiv 1440) ++ part "seconds" (z.minutes.fmod 1440 * 60)
  "datetime.timedelta".toList ++ listed '(' ')' (if parts.isEmpty then [['0']] else parts)

def Zone.shown (z : Zone) : List Char :=
  "tzinfo=datetime.timezone".toList ++ listed '(' ')' [z.offset, quoted z.name]

/-- The parts of a moment that are named: the seconds and their fraction are left out at zero. -/
def Moment.parts (m : Moment) : List Nat :=
  [m.date.year, m.date.month, m.date.day, m.hour, m.minute]
    ++ if m.microsecond != 0 then [m.second, m.microsecond]
      else if m.second != 0 then [m.second] else []

def Timestamp.shown : Timestamp → List Char
  | .date d =>
    "datetime.date".toList ++ listed '(' ')' ([d.year, d.month, d.day].map (Nat.toDigits 10))
  | .moment m =>
    let parts := m.parts.map (Nat.toDigits 10) ++ (m.zone.map Zone.shown).toList
    "datetime.datetime".toList ++ listed '(' ')' parts

def Date.bare (d : Date) : List Char :=
  joinWith ['-'] [padded 4 d.year, padded 2 d.month, padded 2 d.day]

/-- An offset from universal time in hours and minutes. -/
def Zone.bare (z : Zone) : List Char :=
  let minutes := z.minutes.natAbs
  (if z.minutes < 0 then '-' else '+')
    :: joinWith [':'] [padded 2 (minutes / 60), padded 2 (minutes % 60)]

def Timestamp.bare : Timestamp → List Char
  | .date d => d.bare
  | .moment m =>
    let fraction := if m.microsecond == 0 then [] else '.' :: padded 6 m.microsecond
    let time := joinWith [':'] [padded 2 m.hour, padded 2 m.minute, padded 2 m.second]
    m.date.bare ++ ' ' :: time ++ fraction ++ (m.zone.map Zone.bare).getD []

/-! ### Values -/

mutual

/-- A value as a message shows it, given how the collections are shown. -/
def Value.shownWith (collection : Nat → Option (List Char)) : Value → Option (List Char)
  | .null => some "None".toList
  | .bool b => some (if b then "True" else "False").toList
  | .int n => if isWritable n.natAbs then some (shownInt n) else none
  | .float x => some (numberFormat.write x)
  | .undefined _ => some (numberFormat.write .undefined)
  | .string s => some (quotedPoints s)
  | .timestamp t => some t.shown
  | .bytes content => some (quotedBytes content)
  | .tuple items => (shownAllWith collection items).map parenthesized
  | .place n => collection n

def shownAllWith (collection : Nat → Option (List Char)) : List Value → Option (List (List Char))
  | [] => some []
  | v :: r => do return (← v.shownWith collection) :: (← shownAllWith collection r)

end

/-- What is shown of a collection within itself. -/
def Collection.abbreviation : Collection → List Char
  | .list _ => "[...]".toList
  | .pair _ _ => "(...)".toList
  | .mapping _ => "\x7b...\x7d".toList
  | .orderedMapping _ => "...".toList
  | .set _ => "set(...)".toList

/-- A collection, given how the values in it are shown. -/
def Collection.shownWith (shown : Value → Option (List Char)) : Collection → Option (List Char)
  | .list items => do return listed '[' ']' (← items.mapM shown)
  | .pair k v => do return parenthesized [← shown k, ← shown v]
  | .mapping entries => do
    let rows ← entries.mapM fun (k, v) => do return (← shown k) ++ ':' :: ' ' :: (← shown v)
    return listed '\x7b' '\x7d' rows
  | .orderedMapping entries => do
    let rows ← entries.mapM fun (k, v) => do return parenthesized [← shown k, ← shown v]
    let items := if rows.isEmpty then [] else [listed '[' ']' rows]
    return "ordereddict".toList ++ listed '(' ')' items
  | .set [] => some "set()".toList
  | .set members => do return listed '\x7b' '\x7d' (← members.mapM shown)

namespace Data

/-- The collection at a place, inside of those that are opened already. -/
def shownPlace (d : Data) : Nat → List Nat → Nat → Option (List Char)
  | 0, _, _ => none
  | fuel + 1, opened, n =>
    match d.collections[n]? with
    | none => none
    | some c =>
      if opened.contains n then some c.abbreviation
      else c.shownWith fun v => v.shownWith (d.shownPlace fuel (n :: opened))

/-- A value as a message shows it; nothing if it holds a number that cannot be written. -/
def shown? (d : Data) (v : Value) : Option (List Char) :=
  v.shownWith (d.shownPlace (d.collections.size + 1) [])

/-- A value as a text of its own: a text is itself, a date is written with dashes. -/
def bare? (d : Data) : Value → Option (List Char)
  | .string s => some (joinPairs s)
  | .timestamp t => some t.bare
  | v => d.shown? v

end Data

end SpecGrammar.Yaml
