import StorageHandler.Decimal.Shortest
import StorageHandler.Text.Numeral
import StorageHandler.Yaml.Error

/-!
# Timestamps

A timestamp is a date, or a date with a time of day, which may have a fraction of a second and a
zone. `Stamp.read?` takes the written form apart and `Stamp.resolve` finds the date or the moment,
if there is such a day and such a time.
-/

namespace StorageHandler.Yaml

/-- A day of the calendar. -/
structure Date where
  year : Nat
  month : Nat
  day : Nat
  deriving DecidableEq, Repr

/-- A moment of a day, with the minutes by which the zone's clock is ahead, if a zone is known. -/
structure Moment where
  date : Date
  hour : Nat
  minute : Nat
  second : Nat
  microsecond : Nat
  zone : Option Int
  deriving DecidableEq, Repr

namespace Date

/-- Whether a year has a 29th of February. -/
def isLeap (year : Nat) : Bool := year % 4 == 0 && (year % 100 != 0 || year % 400 == 0)

/-- The number of days in a month. -/
def daysIn (year month : Nat) : Nat :=
  if month = 2 then (if isLeap year then 29 else 28)
  else if month = 4 ∨ month = 6 ∨ month = 9 ∨ month = 11 then 30 else 31

/-- Whether there is such a day. -/
def isValid (d : Date) : Bool :=
  1 ≤ d.year && 1 ≤ d.month && d.month ≤ 12 && 1 ≤ d.day && d.day ≤ daysIn d.year d.month

/-- The number of days up to a day, from the first day of the calendar. -/
def ordinal (d : Date) : Nat :=
  let y := d.year - 1
  y * 365 + y / 4 - y / 100 + y / 400
    + (List.range (d.month - 1)).foldl (fun days m => days + daysIn d.year (m + 1)) d.day

/-- A number with zeros in front. -/
def pad (width n : Nat) : String := String.ofList (Decimal.padded width n)

/-- A date as it is written. -/
def text (d : Date) : String := pad 4 d.year ++ "-" ++ pad 2 d.month ++ "-" ++ pad 2 d.day

/-- The numbers of a date. -/
def numbers (d : Date) : List Nat := [d.year, d.month, d.day]

/-- A date as messages quote it. -/
def quoted (d : Date) : String :=
  "datetime.date(" ++ ", ".intercalate (d.numbers.map fun (n : Nat) => Text.Numeral.text n) ++ ")"

end Date

namespace Moment

/-- Whether there is such a time on such a day. -/
def isValid (m : Moment) : Bool :=
  m.date.isValid && m.hour < 24 && m.minute < 60 && m.second < 60
    && m.zone.all fun z => -1440 < z && z < 1440

/-- The microseconds up to a moment, by the clock of the zone that is 0 ahead. -/
def instant (m : Moment) : Int :=
  (((m.date.ordinal * 24 + m.hour : Nat) * 60 + m.minute : Nat) - m.zone.getD 0) * 60000000
    + (m.second * 1000000 + m.microsecond : Nat)

/-- The zone of a moment as it is written. -/
def zoneText (z : Int) : String :=
  (if z < 0 then "-" else "+") ++ Date.pad 2 (z.natAbs / 60) ++ ":" ++ Date.pad 2 (z.natAbs % 60)

/-- A moment as it is written. -/
def text (m : Moment) : String :=
  m.date.text ++ " " ++ Date.pad 2 m.hour ++ ":" ++ Date.pad 2 m.minute ++ ":"
    ++ Date.pad 2 m.second
    ++ (if m.microsecond = 0 then "" else "." ++ Date.pad 6 m.microsecond)
    ++ (m.zone.map zoneText).getD ""

/-- A zone as messages quote it. -/
def zoneQuoted (z : Int) : String :=
  if z = 0 then "datetime.timezone.utc"
  else
    let days := z.fdiv 1440
    let seconds := (z - days * 1440) * 60
    let part (name : String) (n : Int) : List String :=
      if n = 0 then [] else [name ++ "=" ++ Text.Numeral.text n]
    "datetime.timezone(datetime.timedelta("
      ++ ", ".intercalate (part "days" days ++ part "seconds" seconds) ++ "))"

/-- A moment as messages quote it: seconds and fractions that are zero are left out at the end. -/
def quoted (m : Moment) : String :=
  let numbers := m.date.numbers ++ [m.hour, m.minute]
    ++ (if m.microsecond ≠ 0 then [m.second, m.microsecond]
      else if m.second ≠ 0 then [m.second] else [])
  "datetime.datetime("
    ++ ", ".intercalate (numbers.map (fun (n : Nat) => Text.Numeral.text n)
      ++ (m.zone.map fun z => "tzinfo=" ++ zoneQuoted z).toList)
    ++ ")"

end Moment

/-- A timestamp taken apart. -/
structure Stamp where
  date : Date
  /-- Whether the month and the day have two digits each. -/
  full : Bool
  /-- Hour, minute, second, the digits of the fraction, and the zone in minutes. -/
  time : Option (Nat × Nat × Nat × List Char × Option Int)

namespace Stamp

/-- From `least` to `most` digits: their number, their value, and the characters after them. -/
def digits? (least most : Nat) (cs : List Char) : Option (Nat × Nat × List Char) :=
  let ds := (cs.takeWhile Char.isDigit).take most
  if ds.length < least then none
  else some (ds.length, Text.Numeral.ofDigits 10 (ds.map fun d => d.toNat - '0'.toNat),
    cs.drop ds.length)

/-- The characters after `c`, if it stands at the start. -/
def after? (c : Char) : List Char → Option (List Char)
  | [] => none
  | d :: cs => if d = c then some cs else none

/-- The zone at the end of a timestamp; none is written with no characters. -/
def zone? (cs : List Char) : Option (Option Int) :=
  match cs with
  | [] => some none
  | _ =>
    match cs.dropWhile fun c => c = ' ' ∨ c = '\t' with
    | ['Z'] => some (some 0)
    | sign :: rest => do
      if sign ≠ '+' ∧ sign ≠ '-' then none
      let (_, hours, rest) ← digits? 1 2 rest
      let (minutes, rest) ←
        match rest with
        | ':' :: rest => (digits? 2 2 rest).map fun m => (m.2.1, m.2.2)
        | rest => some (0, rest)
      if rest ≠ [] then none
      let offset : Int := (hours * 60 + minutes : Nat)
      some (some (if sign = '-' then -offset else offset))
    | [] => none

/-- Takes a written timestamp apart. -/
def read? (cs : List Char) : Option Stamp := do
  let (_, year, cs) ← digits? 4 4 cs
  let cs ← after? '-' cs
  let (monthDigits, month, cs) ← digits? 1 2 cs
  let cs ← after? '-' cs
  let (dayDigits, day, cs) ← digits? 1 2 cs
  let full := monthDigits == 2 && dayDigits == 2
  match cs with
  | [] => some ⟨⟨year, month, day⟩, full, none⟩
  | c :: rest =>
    let cs ←
      if c = 'T' ∨ c = 't' then some rest
      else if c = ' ' ∨ c = '\t' then some (rest.dropWhile fun c => c = ' ' ∨ c = '\t')
      else none
    let (_, hour, cs) ← digits? 1 2 cs
    let (_, minute, cs) ← digits? 2 2 (← after? ':' cs)
    let (_, second, cs) ← digits? 2 2 (← after? ':' cs)
    let (fraction, cs) :=
      match cs with
      | '.' :: rest => (rest.takeWhile Char.isDigit, rest.dropWhile Char.isDigit)
      | cs => ([], cs)
    let zone ← zone? cs
    some ⟨⟨year, month, day⟩, full, some (hour, minute, second, fraction, zone)⟩

/-- Whether an untagged scalar of this form is a timestamp: a date alone has all its digits. -/
def isPlain (s : Stamp) : Bool := s.full || s.time.isSome

/-- The microseconds that the digits of a fraction write. Further digits are cut off. -/
def microseconds (fraction : List Char) : Nat :=
  let ds := (fraction ++ List.replicate 6 '0').take 6
  Text.Numeral.ofDigits 10 (ds.map fun d => d.toNat - '0'.toNat)

/-- The date or the moment of a timestamp, if there is one. -/
def resolve (s : Stamp) : Except YamlError (Date ⊕ Moment) :=
  match s.time with
  | none => if s.date.isValid then .ok (.inl s.date) else .error .badValue
  | some (hour, minute, second, fraction, zone) =>
    let m : Moment := ⟨s.date, hour, minute, second, microseconds fraction, zone⟩
    if m.isValid then .ok (.inr m) else .error .badValue

end Stamp

/-- The characters of a text without a line feed at its end. -/
def withoutFinalBreak (cs : List Char) : List Char :=
  if cs.getLast? = some '\n' then cs.dropLast else cs

end StorageHandler.Yaml
