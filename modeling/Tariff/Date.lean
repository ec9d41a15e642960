/-
  Tariff.Date — days of the Gregorian calendar and points in time.

  The calendar goes back before its adoption and has a year 0. A date carries the proof
  that it is on the calendar; dates are ordered by `ordinal`.

  A date is written year, month, day with hyphens between them. It is read loosely:
  blanks may stand in front of a number and behind it, a month or a day may have one
  digit, a year without sign has at most four digits and a signed year any number.

  An instant is read with an offset, which is taken off, and written without one, in
  Coordinated Universal Time. The second 60 is a leap second.
-/
import Tariff.Numeral
import Tariff.Text
import Tariff.Json.Reading

namespace Tariff

namespace Date

def isLeap (year : Int) : Bool := year % 4 = 0 && (year % 100 ≠ 0 || year % 400 = 0)

def monthLength (year : Int) (month : Nat) : Nat :=
  if month = 2 then (if isLeap year then 29 else 28)
  else if month = 4 || month = 6 || month = 9 || month = 11 then 30
  else 31

def firstYear : Int := -262143

def lastYear : Int := 262142

def onCalendar (year : Int) (month day : Nat) : Bool :=
  firstYear ≤ year && year ≤ lastYear && 1 ≤ month && month ≤ 12 && 1 ≤ day && day ≤ monthLength year month

end Date

structure Date where
  year : Int
  month : Nat
  day : Nat
  valid : Date.onCalendar year month day = true := by decide
  deriving DecidableEq, Repr

namespace Date

def of? (year : Int) (month day : Nat) : Option Date :=
  if h : onCalendar year month day = true then some ⟨year, month, day, h⟩ else none

/-- A number that grows from each date to the next. -/
def ordinal (d : Date) : Int := (d.year * 16 + d.month) * 32 + d.day

instance : LE Date := ⟨fun a b => a.ordinal ≤ b.ordinal⟩
instance : LT Date := ⟨fun a b => a.ordinal < b.ordinal⟩

instance (a b : Date) : Decidable (a ≤ b) := inferInstanceAs (Decidable (a.ordinal ≤ b.ordinal))
instance (a b : Date) : Decidable (a < b) := inferInstanceAs (Decidable (a.ordinal < b.ordinal))

def next? (d : Date) : Option Date :=
  (of? d.year d.month (d.day + 1)).or ((of? d.year (d.month + 1) 1).or (of? (d.year + 1) 1 1))

def previous? (d : Date) : Option Date :=
  (of? d.year d.month (d.day - 1)).or
    ((of? d.year (d.month - 1) (monthLength d.year (d.month - 1))).or (of? (d.year - 1) 12 31))

end Date

/-! ## Dates in writing -/

inductive CalendarError where
  | outOfRange
  | invalid
  | tooShort
  | tooLong
  /-- An instant that lies outside the calendar once its offset is taken off. -/
  | offCalendar
  deriving DecidableEq, Repr

namespace CalendarError

def message : CalendarError → String
  | .outOfRange => "input is out of range"
  | .invalid => "input contains invalid characters"
  | .tooShort => "premature end of input"
  | .tooLong => "trailing input"
  | .offCalendar => "no possible date and time matching input"

end CalendarError

namespace Date

/-- A reader takes a part off the front of a text. -/
abbrev Reader (α : Type) := List Char → Except CalendarError (α × List Char)

/-- One digit or more, at most `width` of them. -/
def readNumber (width : Nat) : Reader Nat
  | [] => .error .tooShort
  | c :: cs =>
    if isDigit c then
      let ds := ((c :: cs).take width).takeWhile isDigit
      if twoTo 63 ≤ digitsValue ds then .error .outOfRange
      else .ok (digitsValue ds, (c :: cs).drop ds.length)
    else .error .invalid

/-- A number behind blanks that has to be one of `low` to `high`. -/
def readField (width low high : Nat) : Reader Nat := fun cs => do
  let (n, cs) ← readNumber width (Text.trimStart cs)
  if low ≤ n && n ≤ high then return (n, cs) else throw .outOfRange

/-- A year; its digits have to fit 32 bits at once, the calendar is asked later. -/
def readYear : Reader Int := fun cs => do
  let (year, cs) ← match Text.trimStart cs with
    | '-' :: cs => do
      let (n, cs) ← readNumber cs.length cs
      pure (-(n : Int), cs)
    | '+' :: cs => do
      let (n, cs) ← readNumber cs.length cs
      pure ((n : Int), cs)
    | cs => do
      let (n, cs) ← readNumber 4 cs
      pure ((n : Int), cs)
  if -(twoTo 31 : Int) ≤ year && year < twoTo 31 then return (year, cs) else throw .outOfRange

def readMark (c : Char) : Reader Unit := fun cs =>
  match Text.trimStart cs with
  | [] => .error .tooShort
  | d :: cs => if d = c then .ok ((), cs) else .error .invalid

/-- Year, month and day, which are not checked against the calendar yet. -/
def readParts : Reader (Int × Nat × Nat) := fun cs => do
  let (year, cs) ← readYear cs
  let ((), cs) ← readMark '-' cs
  let (month, cs) ← readField 2 1 12 cs
  let ((), cs) ← readMark '-' cs
  let (day, cs) ← readField 2 1 31 cs
  return ((year, month, day), cs)

def onCalendar? (parts : Int × Nat × Nat) : Except CalendarError Date :=
  match of? parts.1 parts.2.1 parts.2.2 with
  | some d => .ok d
  | none => .error .outOfRange

def ofText (s : String) : Except CalendarError Date := do
  let (parts, cs) ← readParts s.toList
  if (Text.trimStart cs).isEmpty then onCalendar? parts else throw .tooLong

def padded (width n : Nat) : List Char :=
  let ds := digitsOf n
  List.replicate (width - ds.length) '0' ++ ds

/-- Years of 0 to 9999 have four digits, the others a sign and at least four digits. -/
def yearText (year : Int) : List Char :=
  if 0 ≤ year && year ≤ 9999 then padded 4 year.natAbs
  else (if year < 0 then '-' else '+') :: padded 4 year.natAbs

def chars (d : Date) : List Char :=
  yearText d.year ++ '-' :: padded 2 d.month ++ '-' :: padded 2 d.day

def text (d : Date) : String := String.ofList d.chars

end Date

/-! ## Instants -/

structure Instant where
  date : Date
  hour : Nat
  minute : Nat
  second : Nat
  nanosecond : Nat
  deriving DecidableEq, Repr

namespace Instant

def epoch : Instant := ⟨⟨1970, 1, 1, by decide⟩, 0, 0, 0, 0⟩

/-- The fraction of a second: nine digits count, more are passed over. -/
def readFraction : Date.Reader Nat
  | '.' :: cs => do
    let ds := cs.takeWhile isDigit
    let kept := ds.take 9
    if cs.isEmpty then throw .tooShort
    if ds.isEmpty then throw .invalid
    return (digitsValue kept * tenTo (9 - kept.length), cs.drop ds.length)
  | cs => .ok (0, cs)

/-- Exactly two digits of a number below `bound`. A text is too short for them if it has
    less than two bytes. -/
def readPair (bound : Nat) : Date.Reader Nat
  | [] => .error .tooShort
  | [c] => .error (if c.utf8Size < 2 then .tooShort else .invalid)
  | a :: b :: cs =>
    if !isDigit a || !isDigit b then .error .invalid
    else
      let n := digitsValue [a, b]
      if n < bound then .ok (n, cs) else .error .outOfRange

/-- The offset in minutes: a letter for none, or a sign, hours and minutes. -/
def readOffset : Date.Reader Int
  | [] => .error .tooShort
  | c :: cs =>
    if c = 'z' || c = 'Z' then .ok (0, cs)
    else if (cs.take 2).map Char.toLower = ['t', 'c'] && c.toLower = 'u' then .ok (0, cs.drop 2)
    else if c = '+' || c = '-' || c = '−' then do
      let (hours, cs) ← readPair 100 cs
      let (minutes, cs) ← readPair 60 (cs.dropWhile fun d => d == ':' || Text.isBlank d)
      let offset : Int := hours * 60 + minutes
      return (if c = '+' then offset else -offset, cs)
    else .error .invalid

def atOffset (i : Instant) (offset : Int) : Option Instant :=
  let minutes : Int := (i.hour * 60 + i.minute : Nat) - offset
  let day := if minutes < 0 then i.date.previous? else if 1440 ≤ minutes then i.date.next? else some i.date
  let minute := (minutes % 1440).toNat
  day.map fun date => { i with date, hour := minute / 60, minute := minute % 60 }

def readSeparator : Date.Reader Unit
  | [] => .error .tooShort
  | c :: cs => if c = 'T' || c = 't' || c = ' ' then .ok ((), cs) else .error .invalid

/-- Date, mark, time and offset, with blanks allowed behind them. The calendar is asked
    after all are read. -/
def ofText (s : String) : Except CalendarError Instant := do
  let (parts, cs) ← Date.readParts s.toList
  let ((), cs) ← readSeparator cs
  let (hour, cs) ← Date.readField 2 0 23 cs
  let ((), cs) ← Date.readMark ':' cs
  let (minute, cs) ← Date.readField 2 0 59 cs
  let ((), cs) ← Date.readMark ':' cs
  let (second, cs) ← Date.readField 2 0 60 cs
  let (nanosecond, cs) ← readFraction cs
  let (offset, cs) ← readOffset (Text.trimStart cs)
  if !(Text.trimStart cs).isEmpty then throw .tooLong
  let date ← Date.onCalendar? parts
  if 1440 ≤ offset.natAbs then throw .outOfRange
  match atOffset { date, hour, minute, second, nanosecond } offset with
  | some i => return i
  | none => throw .offCalendar

/-- The fraction in thousandths, millionths or billionths, as few as it needs. -/
def fractionText (nanosecond : Nat) : List Char :=
  if nanosecond = 0 then []
  else if nanosecond % 1000000 = 0 then '.' :: Date.padded 3 (nanosecond / 1000000)
  else if nanosecond % 1000 = 0 then '.' :: Date.padded 6 (nanosecond / 1000)
  else '.' :: Date.padded 9 nanosecond

def text (i : Instant) : String :=
  String.ofList (i.date.chars ++ 'T' :: Date.padded 2 i.hour ++ ':' :: Date.padded 2 i.minute ++
    ':' :: Date.padded 2 i.second ++ fractionText i.nanosecond ++ ['Z'])

end Instant

/-! ## In JSON data -/

def Date.read : Json.Value → Json.Reading Date
  | .string s => (Date.ofText s).mapError fun e => .refused e.message
  | v => .error (.wrongType v "a formatted date string")

def Instant.read : Json.Value → Json.Reading Instant
  | .string s => (Instant.ofText s).mapError fun e => .refused e.message
  | v => .error (.wrongType v "an RFC 3339 formatted date and time string")

end Tariff
