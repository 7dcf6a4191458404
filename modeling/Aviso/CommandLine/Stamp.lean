import Aviso.Message

/-!
# Stamps

A message is stamped with an identifier of random bits and with the time of its
rendering in UTC.
-/

namespace Aviso.CommandLine

/-- A number with zeros before it, up to a width. -/
def padded (width base n : Nat) : List Char :=
  let digits := Nat.toDigits base n
  List.replicate (width - digits.length) '0' ++ digits

/-- A day of the Gregorian calendar. -/
structure Day where
  year : Nat
  month : Nat
  day : Nat
deriving Repr, DecidableEq

/-- The day that comes the given number of days after the first of January 1970.
Days are counted from the first of March of a year that four hundred divides, so
that a leap day ends a year, a century and a cycle of four hundred years. -/
def Day.ofCount (days : Nat) : Day :=
  let days := days + 719468
  let cycle := days / 146097
  let dayOfCycle := days % 146097
  let yearOfCycle :=
    (dayOfCycle - dayOfCycle / 1460 + dayOfCycle / 36524 - dayOfCycle / 146096) / 365
  let dayOfYear := dayOfCycle - (365 * yearOfCycle + yearOfCycle / 4 - yearOfCycle / 100)
  let monthFromMarch := (5 * dayOfYear + 2) / 153
  let month := if monthFromMarch < 10 then monthFromMarch + 3 else monthFromMarch - 9
  { year := cycle * 400 + yearOfCycle + (if month ≤ 2 then 1 else 0)
    month
    day := dayOfYear - (153 * monthFromMarch + 2) / 5 + 1 }

/-- The fraction of a second, in thousandths, millionths or billionths. -/
def fractionText (nanoseconds : Nat) : List Char :=
  if nanoseconds = 0 then []
  else if nanoseconds % 1000000 = 0 then '.' :: padded 3 10 (nanoseconds / 1000000)
  else if nanoseconds % 1000 = 0 then '.' :: padded 6 10 (nanoseconds / 1000)
  else '.' :: padded 9 10 nanoseconds

/-- The time that is the given number of nanoseconds after the start of 1970. -/
def timeText (nanoseconds : Nat) : String :=
  let seconds := nanoseconds / 1000000000
  let day := Day.ofCount (seconds / 86400)
  let hour := seconds / 3600 % 24
  let minute := seconds / 60 % 60
  String.ofList (padded 4 10 day.year ++ '-' :: padded 2 10 day.month ++ '-' ::
    padded 2 10 day.day ++ 'T' :: padded 2 10 hour ++ ':' :: padded 2 10 minute ++ ':' ::
    padded 2 10 (seconds % 60) ++ fractionText (nanoseconds % 1000000000) ++ ['Z'])

/-- An identifier of 128 bits, six of which say that the others are random. -/
def identifierText (random : Nat) : String :=
  let group (shift width : Nat) := padded width 16 (random / Nat.pow 2 shift % Nat.pow 2 (4 * width))
  let third := padded 4 16 (random / Nat.pow 2 64 % Nat.pow 2 12 + 4 * Nat.pow 2 12)
  let fourth := padded 4 16 (random / Nat.pow 2 48 % Nat.pow 2 14 + 2 * Nat.pow 2 14)
  String.ofList (group 96 8 ++ '-' :: group 80 4 ++ '-' :: third ++ '-' :: fourth ++ '-' ::
    group 0 12)

end Aviso.CommandLine
