import SqlPipeline.Number.Digits
import SqlPipeline.Text.Blank

/-!
Points in time. A time stamp is read from a date, a time and an offset, with blanks allowed between
most of them, and written in UTC with as many groups of three fractional digits as it needs. A
second that is inserted at the end of a minute is kept as the second before it, with a fraction of
one or more.
-/

namespace SqlPipeline

structure Timestamp where
  /-- Seconds since the beginning of 1970, in UTC. -/
  second : Int
  /-- Below 10^9, or below 2·10^9 within an inserted second. -/
  nano : Nat
  deriving DecidableEq

namespace Timestamp

/-! ## Days and dates -/

def isLeapYear (year : Int) : Bool := year % 4 == 0 && (year % 100 != 0 || year % 400 == 0)

def monthDays (year : Int) : List Nat :=
  [31, if isLeapYear year then 29 else 28, 31, 30, 31, 30, 31, 31, 30, 31, 30, 31]

/-- Days from the beginning of year 0 to that of a year. -/
def daysBeforeYear (year : Int) : Int :=
  let past := year - 1
  365 * year + past / 4 - past / 100 + past / 400 + 1

/-- The day 1970-01-01, counted from the beginning of year 0. -/
def epochDay : Int := daysBeforeYear 1970

def dayOfDate (year : Int) (month day : Nat) : Int :=
  daysBeforeYear year + ((monthDays year).take (month - 1)).foldl Nat.add 0 + day - 1 - epochDay

/-- The month and the day in it of a day of the year, counted from zero. -/
def monthOfDay : List Nat → Nat → Nat → Nat × Nat
  | [], month, rest => (month, rest + 1)
  | days :: later, month, rest =>
      if rest < days then (month, rest + 1) else monthOfDay later (month + 1) (rest - days)

/-- Year, month and day. The year is guessed from the mean length of years and is then at most one
too late. -/
def dateOfDay (day : Int) : Int × Nat × Nat :=
  let fromZero := day + epochDay
  let guess := (fromZero * 400) / 146097 + 1
  let year :=
    if daysBeforeYear guess ≤ fromZero then guess
    else if daysBeforeYear (guess - 1) ≤ fromZero then guess - 1
    else guess - 2
  (year, monthOfDay (monthDays year) 1 (fromZero - daysBeforeYear year).toNat)

/-! ## Reading -/

/-- A number of one up to `width` digits off the front of a text. -/
def readNumber (width : Nat) (text : List Char) : Option (Nat × List Char) :=
  let digits := (text.take width).takeWhile Char.isDigit
  (Digits.natural? digits).map fun value => (value, text.drop digits.length)

/-- A year has a sign and any number of digits, or no sign and up to four. -/
def readYear (text : List Char) : Option (Int × List Char) :=
  match text with
  | '-' :: rest => (readNumber rest.length rest).map fun read => (-(read.1 : Int), read.2)
  | '+' :: rest => (readNumber rest.length rest).map fun read => ((read.1 : Int), read.2)
  | _ => (readNumber 4 text).map fun read => ((read.1 : Int), read.2)

/-- A mark with blanks before it, and a two-digit number with blanks before that. -/
def readPart (mark : Char) (text : List Char) : Option (Nat × List Char) :=
  match Text.trimStart text with
  | c :: rest => if c = mark then readNumber 2 (Text.trimStart rest) else none
  | [] => none

/-- A fraction in nanoseconds; digits after the ninth are dropped. -/
def readFraction : List Char → Option (Nat × List Char)
  | '.' :: rest => do
      let (value, after) ← readNumber 9 rest
      let width := rest.length - after.length
      return (value * Nat.pow 10 (9 - width), after.dropWhile Char.isDigit)
  | rest => some (0, rest)

def isOffsetMark (c : Char) : Bool := c == ':' || Text.isBlank c

/-- Two digits, the first below a bound. -/
def readPair (below : Nat) : List Char → Option (Nat × List Char)
  | tens :: ones :: rest =>
      if tens.isDigit ∧ ones.isDigit ∧ Digits.valueOf tens < below then
        some (Digits.valueOf tens * 10 + Digits.valueOf ones, rest)
      else none
  | _ => none

/-- Hours and minutes of an offset as seconds. -/
def readClock (text : List Char) : Option (Int × List Char) := do
  let (hours, rest) ← readPair 10 text
  let (minutes, rest) ← readPair 6 (rest.dropWhile isOffsetMark)
  return (((hours * 60 + minutes) * 60 : Nat), rest)

def readOffset (text : List Char) : Option (Int × List Char) :=
  if (text.take 3).map Char.toUpper = ['U', 'T', 'C'] then some (0, text.drop 3)
  else
    match text with
    | 'Z' :: rest => some (0, rest)
    | 'z' :: rest => some (0, rest)
    | '+' :: rest => readClock rest
    | '-' :: rest => (readClock rest).map fun read => (-read.1, read.2)
    | '−' :: rest => (readClock rest).map fun read => (-read.1, read.2)
    | _ => none

def firstYear : Int := -262143

def lastYear : Int := 262142

def isDate (year : Int) (month day : Nat) : Bool :=
  firstYear ≤ year && year ≤ lastYear && 1 ≤ month && 1 ≤ day
    && day ≤ ((monthDays year)[month - 1]?).getD 0

/-- Whether a second lies within the years that can be told. -/
def isSecond (second : Int) : Bool :=
  dayOfDate firstYear 1 1 * 86400 ≤ second && second < dayOfDate (lastYear + 1) 1 1 * 86400

def read? (text : String) : Option Timestamp := do
  let (year, rest) ← readYear (Text.trimStart text.toList)
  let (month, rest) ← readPart '-' rest
  let (day, rest) ← readPart '-' rest
  let rest ← match rest with
    | c :: rest => if c = 'T' ∨ c = 't' ∨ c = ' ' then some rest else none
    | [] => none
  let (hour, rest) ← readNumber 2 (Text.trimStart rest)
  let (minute, rest) ← readPart ':' rest
  let (second, rest) ← readPart ':' rest
  let (nano, rest) ← readFraction rest
  let (offset, rest) ← readOffset (Text.trimStart rest)
  if isDate year month day ∧ hour < 24 ∧ minute < 60 ∧ second ≤ 60 ∧ offset.natAbs < 86400
      ∧ Text.trimStart rest = [] then
    let clock : Int := ((hour * 60 + minute) * 60 + min second 59 : Nat)
    let moment := dayOfDate year month day * 86400 + clock - offset
    if isSecond moment then
      some ⟨moment, if second = 60 then nano + Nat.pow 10 9 else nano⟩
    else none
  else none

/-! ## Writing -/

/-- A number with zeros before it up to a width. -/
def padded (width value : Nat) : List Char :=
  let digits := (toString value).toList
  List.replicate (width - digits.length) '0' ++ digits

def writeYear (year : Int) : List Char :=
  if 0 ≤ year ∧ year ≤ 9999 then padded 4 year.toNat
  else (if year < 0 then '-' else '+') :: padded 4 year.natAbs

def writeFraction (nano : Nat) : List Char :=
  if nano = 0 then []
  else if nano % Nat.pow 10 6 = 0 then '.' :: padded 3 (nano / Nat.pow 10 6)
  else if nano % Nat.pow 10 3 = 0 then '.' :: padded 6 (nano / Nat.pow 10 3)
  else '.' :: padded 9 nano

def write (stamp : Timestamp) : String :=
  let (year, month, day) := dateOfDay (stamp.second / 86400)
  let clock := (stamp.second % 86400).toNat
  let second := clock % 60 + stamp.nano / Nat.pow 10 9
  String.ofList
    (writeYear year ++ '-' :: padded 2 month ++ '-' :: padded 2 day
      ++ 'T' :: padded 2 (clock / 3600) ++ ':' :: padded 2 (clock / 60 % 60)
      ++ ':' :: padded 2 second
      ++ writeFraction (stamp.nano % Nat.pow 10 9) ++ ['Z'])

end Timestamp
end SqlPipeline
