import StateCheck.Text.Digit

/-!
Timestamps: the date and the time of day, in universal time, of a number of seconds since the
start of the year 1970.
-/

namespace StateCheck.Timestamp

/-- The days of 400 years, after which the calendar repeats itself. -/
def cycleDays : Nat := 146097

/-- The days from the first of March of the year 0 to the start of the year 1970. -/
def epochDays : Nat := 719468

/-- Within a cycle, the year of a day, counted from March to February. -/
def yearOfCycle (day : Nat) : Nat :=
  (day - day / 1460 + day / 36524 - day / (cycleDays - 1)) / 365

/-- The year, month and day of a number of days since the start of the year 1970. Years are
counted from March, so that a leap day is the last day of its year. -/
def date (days : Nat) : Nat × Nat × Nat :=
  let day := (days + epochDays) % cycleDays
  let year := yearOfCycle day
  let dayOfYear := day - (365 * year + year / 4 - year / 100)
  let monthFromMarch := (5 * dayOfYear + 2) / 153
  let dayOfMonth := dayOfYear - (153 * monthFromMarch + 2) / 5 + 1
  let month := if monthFromMarch < 10 then monthFromMarch + 3 else monthFromMarch - 9
  (400 * ((days + epochDays) / cycleDays) + year + (if month ≤ 2 then 1 else 0), month, dayOfMonth)

def digits (count n : Nat) : String := String.ofList (Text.padded count n)

/-- The text of a moment, with an offset of zero hours; microseconds are left out if there are
none. -/
def text (seconds microseconds : Nat) : String :=
  let (year, month, day) := date (seconds / 86400)
  digits 4 year ++ "-" ++ digits 2 month ++ "-" ++ digits 2 day ++ "T" ++
    digits 2 (seconds / 3600 % 24) ++ ":" ++ digits 2 (seconds / 60 % 60) ++ ":" ++
    digits 2 (seconds % 60) ++
    (if microseconds = 0 then "" else "." ++ digits 6 microseconds) ++ "+00:00"

end StateCheck.Timestamp
