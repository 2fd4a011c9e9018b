/-!
# Instants

Moments of universal time with nanoseconds, and their Internet timestamp text. Dates follow the
Gregorian calendar extended to all years. A leap second is written as second 60 and kept as the
59th second with a thousand million or more nanoseconds.
-/

namespace ObjectConstraints

/-- A moment: whole seconds since the first instant of 1970, and nanoseconds within the second. -/
structure Instant where
  seconds : Int
  nanos : Nat
  deriving Repr, DecidableEq, Inhabited

namespace Instant

def before (x y : Instant) : Bool :=
  x.seconds < y.seconds || (x.seconds == y.seconds && x.nanos < y.nanos)

theorem before_irrefl (x : Instant) : x.before x = false := by
  simp [before]

def isLeapYear (year : Int) : Bool :=
  year % 4 == 0 && (year % 100 != 0 || year % 400 == 0)

def daysInMonth (year : Int) (month : Nat) : Nat :=
  match month with
  | 2 => if isLeapYear year then 29 else 28
  | 4 | 6 | 9 | 11 => 30
  | _ => 31

/-- Days from the first of January 1970 to a date. The year is taken to begin in March, so that the
leap day is its last day. -/
def daysFromDate (year : Int) (month day : Nat) : Int :=
  let shifted : Int := if month ≤ 2 then year - 1 else year
  let monthFromMarch : Int := if month ≤ 2 then month + 9 else (month : Int) - 3
  let dayOfYear := (153 * monthFromMarch + 2) / 5 + day - 1
  365 * shifted + shifted / 4 - shifted / 100 + shifted / 400 + dayOfYear - 719468

/-- The date of a day counted from the first of January 1970. -/
def dateFromDays (days : Int) : Int × Nat × Nat :=
  let shifted := days + 719468
  let era := shifted / 146097
  let dayOfEra := shifted % 146097
  let yearOfEra := (dayOfEra - dayOfEra / 1460 + dayOfEra / 36524 - dayOfEra / 146096) / 365
  let dayOfYear := dayOfEra - (365 * yearOfEra + yearOfEra / 4 - yearOfEra / 100)
  let monthFromMarch := (5 * dayOfYear + 2) / 153
  let day := dayOfYear - (153 * monthFromMarch + 2) / 5 + 1
  let month := if monthFromMarch < 10 then monthFromMarch + 3 else monthFromMarch - 9
  let year := yearOfEra + era * 400 + (if month ≤ 2 then 1 else 0)
  (year, month.toNat, day.toNat)

def padded (width n : Nat) : String :=
  let digits := Nat.toDigits 10 n
  String.ofList (List.replicate (width - digits.length) '0' ++ digits)

/-- The fraction of a second: nothing, or three, six or nine digits. -/
def fractionText (nanos : Nat) : String :=
  if nanos == 0 then ""
  else if nanos % 1000000 == 0 then "." ++ padded 3 (nanos / 1000000)
  else if nanos % 1000 == 0 then "." ++ padded 6 (nanos / 1000)
  else "." ++ padded 9 nanos

/-- A year has four digits; outside of 0 to 9999 it is signed. -/
def yearText (year : Int) : String :=
  if 0 ≤ year && year ≤ 9999 then padded 4 year.toNat
  else (if year < 0 then "-" else "+") ++ padded 4 year.natAbs

/-- The timestamp text of a moment, with the offset of universal time. -/
def text (t : Instant) : String :=
  let (year, month, day) := dateFromDays (t.seconds / 86400)
  let second := (t.seconds % 86400).toNat
  let leap := t.nanos / 1000000000
  yearText year ++ "-" ++ padded 2 month ++ "-" ++ padded 2 day ++ "T" ++
    padded 2 (second / 3600) ++ ":" ++ padded 2 (second / 60 % 60) ++ ":" ++
    padded 2 (second % 60 + leap) ++ fractionText (t.nanos % 1000000000) ++ "+00:00"

def takeDigits (n : Nat) (cs : List Char) : Option (Nat × List Char) :=
  let digits := cs.take n
  if digits.length == n && digits.all Char.isDigit then
    some (digits.foldl (fun v c => 10 * v + (c.toNat - 48)) 0, cs.drop n)
  else none

def expect (c : Char) : List Char → Option (List Char)
  | d :: rest => if c == d then some rest else none
  | [] => none

/-- Reads the fraction of a second if there is one; digits beyond the ninth are dropped. -/
def takeFraction : List Char → Option (Nat × List Char)
  | '.' :: rest =>
    let digits := rest.takeWhile Char.isDigit
    let kept := digits.take 9
    if digits.isEmpty then none
    else some (kept.foldl (fun v c => 10 * v + (c.toNat - 48)) 0 *
      Nat.pow 10 (9 - kept.length), rest.drop digits.length)
  | cs => some (0, cs)

/-- Reads an offset from universal time in seconds, less than a day either way. -/
def takeOffset : List Char → Option (Int × List Char)
  | [] => none
  | c :: rest =>
    if c == 'Z' || c == 'z' then some (0, rest)
    else if c == '+' || c == '-' || c == '−' then do
      let (hours, rest) ← takeDigits 2 rest
      let rest ← expect ':' rest
      let (minutes, rest) ← takeDigits 2 rest
      if 23 < hours || 59 < minutes then none
      else
        let offset : Int := hours * 3600 + minutes * 60
        some (if c == '+' then offset else -offset, rest)
    else none

/-- Reads a timestamp: a date and a time of day separated by `T` or a space, then an offset. -/
def ofText? (text : String) : Option Instant := do
  let (year, rest) ← takeDigits 4 text.toList
  let rest ← expect '-' rest
  let (month, rest) ← takeDigits 2 rest
  let rest ← expect '-' rest
  let (day, rest) ← takeDigits 2 rest
  let rest ← match rest with
    | c :: rest => if c == 'T' || c == 't' || c == ' ' then some rest else none
    | [] => none
  let (hour, rest) ← takeDigits 2 rest
  let rest ← expect ':' rest
  let (minute, rest) ← takeDigits 2 rest
  let rest ← expect ':' rest
  let (second, rest) ← takeDigits 2 rest
  let (nanos, rest) ← takeFraction rest
  let (offset, rest) ← takeOffset rest
  if !rest.isEmpty || month == 0 || 12 < month || day == 0 || daysInMonth year month < day ||
      23 < hour || 59 < minute || 60 < second then none
  else
    let (second, nanos) := if second == 60 then (59, nanos + 1000000000) else (second, nanos)
    some ⟨daysFromDate year month day * 86400 + hour * 3600 + minute * 60 + second - offset, nanos⟩

end Instant

end ObjectConstraints
