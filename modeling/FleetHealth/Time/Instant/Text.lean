import FleetHealth.Text.Numeral
import FleetHealth.Text.Scan
import FleetHealth.Time.Instant
/-!
Instants as text, such as `2024-01-02T03:04:05.5Z`. Reading is lenient: numbers may have blanks in
front and fewer digits, a year may have a sign, the day is parted from the hour by `T`, `t` or one
space, and the offset from universal time is `Z`, `z`, `UTC` or a sign with hours and minutes.
Second 60 is a leap second. Writing is always in universal time.
-/

namespace FleetHealth.Instant

open Text

structure Written where
  date : Date
  hour : Nat
  minute : Nat
  second : Nat
  nanos : Nat
  offset : Int

namespace Written

def isYear (y : Int) : Bool := -262143 ≤ y && y ≤ 262142

/-- Seconds since 1970 of the time of day that was written, before its offset is taken off. -/
def localSeconds (w : Written) : Int :=
  w.date.toDays * secondsPerDay + w.hour * 3600 + w.minute * 60 + min w.second 59

def instant? (w : Written) : Option Instant :=
  if w.date.IsValid ∧ isYear w.date.year ∧ w.hour < 24 ∧ w.minute < 60 ∧ w.second ≤ 60
      ∧ w.offset.natAbs < secondsPerDay then
    ofParts? (w.localSeconds - w.offset) (w.nanos + if w.second = 60 then nanosPerSecond else 0)
  else none

end Written

def scanNumber : Scan Nat := do
  Scan.blanks
  return ofDigits (← Scan.digitsUpTo 2)

/-- A year of at most four digits, or a sign and a year of any length. -/
def scanYear : Scan Int := do
  Scan.blanks
  if ← Scan.tryLiteral '-' then
    return -(ofDigits (← Scan.digits) : Int)
  else if ← Scan.tryLiteral '+' then
    return ofDigits (← Scan.digits)
  else
    return ofDigits (← Scan.digitsUpTo 4)

def scanMark (c : Char) : Scan Unit := do
  Scan.blanks
  Scan.literal c

/-- The nanoseconds after a point; digits beyond them are passed over. -/
def scanFraction : Scan Nat := do
  if ← Scan.tryLiteral '.' then
    let ds ← Scan.digits
    let kept := ds.take 9
    return ofDigits kept * tenTo (9 - kept.length)
  else
    return 0

def scanSign : Scan Int := do
  let c ← Scan.one fun c => c == '+' || c == '-' || c == '\u2212'
  return if c = '+' then 1 else -1

def scanOffsetMinutes : Scan Nat := do
  let n := ofDigits (← Scan.twoDigits)
  if n < 60 then return n else Scan.refuse

def tryUTC : Scan Bool := fun cs =>
  if (cs.take 3).map Char.toUpper = ['U', 'T', 'C'] then some (true, cs.drop 3)
  else some (false, cs)

def scanOffset : Scan Int := do
  if ← tryUTC then return 0
  else if ← Scan.tryLiteral 'Z' then return 0
  else if ← Scan.tryLiteral 'z' then return 0
  else
    let sign ← scanSign
    let hours := ofDigits (← Scan.twoDigits)
    let _ ← Scan.run fun c => c == ':' || isBlank c
    let minutes ← scanOffsetMinutes
    return sign * (hours * 3600 + minutes * 60 : Nat)

def scanWritten : Scan Written := do
  let year ← scanYear
  scanMark '-'
  let month ← scanNumber
  scanMark '-'
  let day ← scanNumber
  let _ ← Scan.one fun c => c == 'T' || c == 't' || c == ' '
  let hour ← scanNumber
  scanMark ':'
  let minute ← scanNumber
  scanMark ':'
  let second ← scanNumber
  let nanos ← scanFraction
  Scan.blanks
  let offset ← scanOffset
  Scan.blanks
  return { date := { year, month, day }, hour, minute, second, nanos, offset }

def parse? (s : String) : Option Instant := do
  (← scanWritten.whole? s.toList).instant?

/-- Four digits, or a sign and at least four digits for a year outside of 0 to 9999. -/
def yearText (y : Int) : String :=
  if 0 ≤ y ∧ y ≤ 9999 then padded 4 y.toNat
  else (if y < 0 then "-" else "+") ++ padded 4 y.natAbs

def dateText (d : Date) : String :=
  yearText d.year ++ "-" ++ padded 2 d.month ++ "-" ++ padded 2 d.day

/-- Hours, minutes and seconds of a second of the day; a leap second is number 60. -/
def clockText (secondOfDay : Nat) (leap : Bool) : String :=
  padded 2 (secondOfDay / 3600) ++ ":" ++ padded 2 (secondOfDay / 60 % 60) ++ ":"
    ++ padded 2 (secondOfDay % 60 + if leap then 1 else 0)

/-- The fraction of a second with as many digits as it needs: none, three, six or nine. -/
def fractionText (nanos : Nat) : String :=
  if nanos = 0 then ""
  else if nanos % 1000000 = 0 then "." ++ padded 3 (nanos / 1000000)
  else if nanos % 1000 = 0 then "." ++ padded 6 (nanos / 1000)
  else "." ++ padded 9 nanos

def secondsText (t : Instant) : String :=
  dateText (Date.ofDays (t.seconds / secondsPerDay)) ++ "T"
    ++ clockText t.secondOfDay.toNat t.isLeap

def render (t : Instant) (zone : String) : String :=
  t.secondsText ++ fractionText (t.nanos % nanosPerSecond) ++ zone

def renderSeconds (t : Instant) : String := t.secondsText ++ "Z"

end FleetHealth.Instant
