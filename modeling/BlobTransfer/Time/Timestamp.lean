import BlobTransfer.Text.Ascii
import BlobTransfer.Text.Blank
import BlobTransfer.Text.Decimal

/-!
Instants in UTC by calendar day, and their RFC 3339 text. Reading is lenient: one digit where
two are usual, blanks between the parts of date and time, a blank or a small letter for the `T`.
-/

namespace BlobTransfer

structure Timestamp where
  day : Int
  secondOfDay : Nat
  nanos : Nat
  deriving DecidableEq, Repr

namespace Timestamp

/-- Days since 1970-01-01 of a day of the Gregorian calendar, years counted from March. -/
def dayNumber (year : Int) (month day : Nat) : Int :=
  let shifted := if month ≤ 2 then year - 1 else year
  let era := shifted / 400
  let yearOfEra := (shifted - era * 400).toNat
  let monthFromMarch := (month + 9) % 12
  let dayOfYear := (153 * monthFromMarch + 2) / 5 + day - 1
  let dayOfEra := yearOfEra * 365 + yearOfEra / 4 - yearOfEra / 100 + dayOfYear
  era * 146097 + dayOfEra - 719468

def calendar (dayNumber : Int) : Int × Nat × Nat :=
  let shifted := dayNumber + 719468
  let era := shifted / 146097
  let dayOfEra := (shifted - era * 146097).toNat
  let yearOfEra := (dayOfEra - dayOfEra / 1460 + dayOfEra / 36524 - dayOfEra / 146096) / 365
  let dayOfYear := dayOfEra - (365 * yearOfEra + yearOfEra / 4 - yearOfEra / 100)
  let monthFromMarch := (5 * dayOfYear + 2) / 153
  let day := dayOfYear - (153 * monthFromMarch + 2) / 5 + 1
  let month := if monthFromMarch < 10 then monthFromMarch + 3 else monthFromMarch - 9
  let year := (yearOfEra : Int) + era * 400
  (if month ≤ 2 then year + 1 else year, month, day)

def isLeap (year : Int) : Bool := year % 4 = 0 && (year % 100 ≠ 0 || year % 400 = 0)

def daysInMonth (year : Int) (month : Nat) : Nat :=
  match month with
  | 2 => if isLeap year then 29 else 28
  | 4 | 6 | 9 | 11 => 30
  | _ => 31

def pad (width value : Nat) : List Char :=
  let digits := Nat.toDigits 10 value
  List.replicate (width - digits.length) '0' ++ digits

def yearText (year : Int) : List Char :=
  if 0 ≤ year ∧ year ≤ 9999 then pad 4 year.toNat
  else if year < 0 then '-' :: pad 4 year.natAbs
  else '+' :: pad 4 year.toNat

def fractionText (nanos : Nat) : List Char :=
  if nanos = 0 then []
  else if nanos % 1000000 = 0 then '.' :: pad 3 (nanos / 1000000)
  else if nanos % 1000 = 0 then '.' :: pad 6 (nanos / 1000)
  else '.' :: pad 9 nanos

def text (instant : Timestamp) : String :=
  let (year, month, day) := calendar instant.day
  let leap := instant.nanos / 1000000000
  let second := instant.secondOfDay % 60 + leap
  String.ofList <|
    yearText year ++ '-' :: pad 2 month ++ '-' :: pad 2 day ++ 'T' ::
    pad 2 (instant.secondOfDay / 3600) ++ ':' :: pad 2 (instant.secondOfDay / 60 % 60) ++ ':' ::
    pad 2 second ++ fractionText (instant.nanos % 1000000000) ++ ['Z']

def digits? (width : Nat) (chars : List Char) : Option (Nat × List Char) :=
  let digits := (chars.take width).takeWhile Ascii.isDigit
  if digits.isEmpty then none
  else some (Decimal.digitsValue digits, chars.drop digits.length)

def skipBlanks (chars : List Char) : List Char := chars.dropWhile Blank.isBlank

def year? (chars : List Char) : Option (Int × List Char) :=
  match chars with
  | '-' :: rest => (digits? rest.length rest).map fun (year, after) => (-(year : Int), after)
  | '+' :: rest => (digits? rest.length rest).map fun (year, after) => ((year : Int), after)
  | _ => (digits? 4 chars).map fun (year, after) => ((year : Int), after)

def mark? (mark : Char) : List Char → Option (List Char)
  | c :: rest => if c = mark then some rest else none
  | [] => none

def part? (mark : Char) (chars : List Char) : Option (Nat × List Char) := do
  let rest ← mark? mark (skipBlanks chars)
  digits? 2 (skipBlanks rest)

def fraction? (chars : List Char) : Option (Nat × List Char) :=
  match chars with
  | '.' :: rest => do
      let (value, after) ← digits? 9 rest
      let count := rest.length - after.length
      return (value * Nat.pow 10 (9 - count), after.dropWhile Ascii.isDigit)
  | _ => some (0, chars)

def twoDigits? : List Char → Option (Nat × List Char)
  | tens :: ones :: rest =>
      if Ascii.isDigit tens && Ascii.isDigit ones then
        some (Decimal.digitsValue [tens, ones], rest)
      else none
  | _ => none

def offset? (chars : List Char) : Option (Int × List Char) :=
  match chars with
  | u :: t :: c :: rest =>
      if Ascii.lower (String.ofList [u, t, c]) = "utc" then some (0, rest) else zone? chars
  | _ => zone? chars
where
  zone? (chars : List Char) : Option (Int × List Char) :=
    match chars with
    | 'Z' :: rest | 'z' :: rest => some (0, rest)
    | '+' :: rest => (minutes? rest).map fun (minutes, after) => ((minutes : Int) * 60, after)
    | '-' :: rest | '−' :: rest =>
        (minutes? rest).map fun (minutes, after) => (-(minutes : Int) * 60, after)
    | _ => none
  minutes? (chars : List Char) : Option (Nat × List Char) := do
    let (hours, rest) ← twoDigits? chars
    let (minutes, after) ← twoDigits? (rest.dropWhile fun c => c = ':' || Blank.isBlank c)
    if 59 < minutes then none
    return (hours * 60 + minutes, after)

def ofText? (text : String) : Option Timestamp := do
  let (year, rest) ← year? (skipBlanks text.toList)
  let (month, rest) ← part? '-' rest
  let (day, rest) ← part? '-' rest
  let rest ←
    match rest with
    | 't' :: rest | 'T' :: rest | ' ' :: rest => some rest
    | _ => none
  let (hour, rest) ← digits? 2 (skipBlanks rest)
  let (minute, rest) ← part? ':' rest
  let (second, rest) ← part? ':' rest
  let (nanos, rest) ← fraction? rest
  let (offset, rest) ← offset? (skipBlanks rest)
  if !(skipBlanks rest).isEmpty then none
  if year < -262143 ∨ 262142 < year then none
  if month < 1 ∨ 12 < month ∨ day < 1 ∨ daysInMonth year month < day then none
  if 23 < hour ∨ 59 < minute ∨ 60 < second then none
  if 86400 ≤ offset.natAbs then none
  let shown := min second 59
  let leap := second - shown
  let total := dayNumber year month day * 86400 + (hour * 3600 + minute * 60 + shown : Nat) - offset
  return ⟨total / 86400, (total % 86400).toNat, nanos + leap * 1000000000⟩

end Timestamp

end BlobTransfer
