import StackSampler.Decimal.Digits
import StackSampler.Text.Blank
import StackSampler.Time.Instant

/-!
# RFC 3339 times

Instants as text. `Instant.text` writes universal time with `Z` and as few groups of three fraction
digits as lose nothing. `Instant.read` is more liberal: short fields, blanks in front of fields,
signed years of any length and offsets from universal time are accepted.

The reader takes the text from the left and stops at the first problem; dates that the calendar does
not have are found at the end.
-/

namespace StackSampler

/-- Why a text is not a time. -/
inductive TimeError where
  | outOfRange
  | impossible
  | invalid
  | tooShort
  | tooLong
  deriving DecidableEq, Repr

def TimeError.message : TimeError → String
  | .outOfRange => "input is out of range"
  | .impossible => "no possible date and time matching input"
  | .invalid => "input contains invalid characters"
  | .tooShort => "premature end of input"
  | .tooLong => "trailing input"

namespace Rfc3339

open Decimal Text

/-! ## Writing -/

/-- A year of four digits from 0 to 9999, with its sign outside of that. -/
def yearText (year : Int) : List Char :=
  if 0 ≤ year ∧ year ≤ 9999 then padded 4 year.toNat
  else (if year < 0 then '-' else '+') :: padded 4 year.natAbs

/-- No fraction, or the fewest of 3, 6 and 9 digits that are exact. -/
def fractionText (nanos : Nat) : List Char :=
  if nanos = 0 then []
  else if nanos % 1000000 = 0 then '.' :: padded 3 (nanos / 1000000)
  else if nanos % 1000 = 0 then '.' :: padded 6 (nanos / 1000)
  else '.' :: padded 9 nanos

/-- A time of day; a leap second is second 60. -/
def timeText (secondOfDay nanos : Nat) : List Char :=
  let leap := Instant.second ≤ nanos
  let sec := secondOfDay % 60 + if leap then 1 else 0
  padded 2 (secondOfDay / 3600) ++ ':' :: padded 2 (secondOfDay / 60 % 60) ++ ':' :: padded 2 sec ++
    fractionText (if leap then nanos - Instant.second else nanos)

def dateText (d : Date) : List Char :=
  yearText d.year ++ '-' :: padded 2 d.month ++ '-' :: padded 2 d.day

/-- An instant in universal time. -/
def chars (t : Instant) : List Char :=
  dateText t.date ++ 'T' :: timeText t.secondOfDay t.nanos ++ ['Z']

/-! ## Reading -/

/-- Reads from the front of a text and leaves the rest. -/
abbrev Reader := StateT (List Char) (Except TimeError)

/-- The largest number that a field may hold before its range is looked at. -/
def largest : Nat := 9223372036854775807

def blanks : Reader Unit := modify skipBlank

/-- A number of at least one and at most `width` digits. -/
def number (width : Nat) : Reader Nat := do
  let cs ← get
  let ds := (cs.take width).takeWhile Char.isDigit
  if cs.isEmpty then throw .tooShort
  if ds.isEmpty then throw .invalid
  if largest < value ds then throw .outOfRange
  set (cs.drop ds.length)
  return value ds

/-- A number of one or two digits between `lo` and `hi`, after blanks. -/
def field (lo hi : Nat) : Reader Nat := do
  blanks
  let n ← number 2
  if n < lo ∨ hi < n then throw .outOfRange
  return n

/-- A number of any length. -/
def longNumber : Reader Nat := do number (← get).length

/-- A year: up to four digits, or any number of them after a sign. -/
def year : Reader Int := do
  blanks
  let year : Int ← match ← get with
    | '-' :: cs => do
      set cs
      pure (-(← longNumber : Nat))
    | '+' :: cs => do
      set cs
      pure (← longNumber : Nat)
    | _ => do pure (← number 4 : Nat)
  if year < -2147483648 ∨ 2147483647 < year then throw .outOfRange
  return year

/-- One of the characters `marks`. -/
def mark (marks : List Char) : Reader Unit := do
  match ← get with
  | [] => throw .tooShort
  | c :: cs => if c ∈ marks then set cs else throw .invalid

/-- The separator `sep`, after blanks. -/
def separator (sep : Char) : Reader Unit := do
  blanks
  mark [sep]

/-- An optional fraction of a second in nanoseconds. Digits past the ninth are dropped. -/
def fraction : Reader Nat := do
  match ← get with
  | '.' :: cs =>
    set cs
    let n ← number 9
    let rest ← get
    set (rest.dropWhile Char.isDigit)
    return n * Nat.pow 10 (9 - (cs.length - rest.length))
  | _ => return 0

/-- Two characters that have to be digits, of which the first is at most `most` where they are. One
ASCII character alone is too short. -/
def twoDigits (most : Nat) : Reader Nat := do
  match ← get with
  | [] => throw .tooShort
  | [c] => throw (if c.toNat < 128 then .tooShort else .invalid)
  | a :: b :: cs =>
    if !(a.isDigit && b.isDigit) then throw .invalid
    if most < value [a] then throw .outOfRange
    set cs
    return value [a, b]

/-- Hours and minutes of an offset, in seconds. A colon or blanks may stand between them. -/
def offset : Reader Nat := do
  let hours ← twoDigits 9
  modify fun cs => cs.dropWhile fun c => c == ':' || isBlank c
  let minutes ← twoDigits 5
  return (hours * 60 + minutes) * 60

/-- The offset of the zone from universal time, in seconds: `Z` or `UTC` in any case, or hours and
minutes after a sign, for which a typographic minus may stand. -/
def zone : Reader Int := do
  match ← get with
  | [] => throw .tooShort
  | c :: cs =>
    if (c :: cs.take 2).map Char.toLower = ['u', 't', 'c'] then
      set (cs.drop 2)
      return 0
    set cs
    if c = 'Z' ∨ c = 'z' then return 0
    else if c = '+' then return (← offset : Nat)
    else if c = '-' ∨ c = '−' then return -(← offset : Nat)
    else throw .invalid

/-- The parts of a time as they are written. -/
structure Fields where
  date : Date
  hour : Nat
  minute : Nat
  second : Nat
  nanos : Nat
  offset : Int

/-- All parts of a time, up to the end of the text. -/
def fields : Reader Fields := do
  let year ← year
  separator '-'
  let month ← field 1 12
  separator '-'
  let day ← field 1 31
  mark ['t', 'T', ' ']
  let hour ← field 0 23
  separator ':'
  let minute ← field 0 59
  separator ':'
  let second ← field 0 60
  let nanos ← fraction
  blanks
  let offset ← zone
  blanks
  if !(← get).isEmpty then throw .tooLong
  return { date := ⟨year, month, day⟩, hour, minute, second, nanos, offset }

/-- The instant that the parts name. Second 60 prolongs second 59. -/
def Fields.instant (f : Fields) : Except TimeError Instant := do
  if !f.date.isValid then throw .outOfRange
  if f.date.year < Instant.firstYear ∨ Instant.lastYear < f.date.year then throw .outOfRange
  if Instant.secondsPerDay ≤ f.offset.natAbs then throw .outOfRange
  let secondOfDay : Nat := (f.hour * 60 + f.minute) * 60 + min f.second 59
  let t : Instant :=
    { seconds := Instant.ofDate f.date secondOfDay - f.offset
      nanos := if f.second = 60 then f.nanos + Instant.second else f.nanos }
  if !t.inRange then throw .impossible
  return t

/-- The instant that a text stands for. -/
def read (cs : List Char) : Except TimeError Instant := do
  let (parts, _) ← fields.run cs
  parts.instant

end Rfc3339

namespace Instant

def text (t : Instant) : String := String.ofList (Rfc3339.chars t)

def read (s : String) : Except TimeError Instant := Rfc3339.read s.toList

end Instant

end StackSampler
