import ChainFollower.Text.Number

/-!
Times in seconds since 1970, written as dates of the Gregorian calendar in UTC.
-/

namespace ChainFollower.Time

/-- Year, month and day of a day counted from 1970-01-01. The count is taken from the first of March
of the year 0, so that leap days end a cycle. -/
def date (day : Int) : Int × Nat × Nat :=
  let z := day + 719468
  let era := Int.fdiv z 146097
  let dayOfEra := (z - era * 146097).toNat
  let yearOfEra := (dayOfEra - dayOfEra / 1460 + dayOfEra / 36524 - dayOfEra / 146096) / 365
  let dayOfYear := dayOfEra - (365 * yearOfEra + yearOfEra / 4 - yearOfEra / 100)
  let shifted := (5 * dayOfYear + 2) / 153
  let dayOfMonth := dayOfYear - (153 * shifted + 2) / 5 + 1
  let month := if shifted < 10 then shifted + 3 else shifted - 9
  let year := (yearOfEra : Int) + era * 400 + (if month ≤ 2 then 1 else 0)
  (year, month, dayOfMonth)

def padded (width n : Nat) : String :=
  let digits := Text.decimal n
  String.ofList (List.replicate (width - digits.length) '0' ++ digits)

/-- Four digits; years beyond 9999 or before 0 have a sign. -/
def yearText (year : Int) : String :=
  if year < 0 then "-" ++ padded 4 year.natAbs
  else if year ≤ 9999 then padded 4 year.natAbs
  else "+" ++ padded 4 year.natAbs

def minYear : Int := -262143

def maxYear : Int := 262142

/-- The time in the format of RFC 3339, for the years that calendars of this kind cover. -/
def rfc3339? (seconds : Int) : Option String :=
  let day := Int.fdiv seconds 86400
  let second := (seconds - day * 86400).toNat
  let (year, month, dayOfMonth) := date day
  if minYear ≤ year ∧ year ≤ maxYear then
    some (yearText year ++ "-" ++ padded 2 month ++ "-" ++ padded 2 dayOfMonth ++ "T" ++
      padded 2 (second / 3600) ++ ":" ++ padded 2 (second / 60 % 60) ++ ":" ++
      padded 2 (second % 60) ++ "+00:00")
  else none

end ChainFollower.Time
