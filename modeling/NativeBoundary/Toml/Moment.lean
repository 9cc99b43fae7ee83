import NativeBoundary.Toml.Number

/-!
# Moments in time

A date, a time of day, or a date with a time and perhaps an offset.  Months have
the length that they have in their year, a minute may have sixty-one seconds,
and an offset stays within a day.
-/

namespace NativeBoundary.Toml.Reader

/-- Take a number of a fixed count of digits within bounds. -/
def fixed (count least greatest : Nat) : Reader Nat := do
  let number := numberOf 10 (← exactly isDigit count)
  ensure (least ≤ number && number ≤ greatest)
  pure number

def isLeapYear (year : Nat) : Bool :=
  year % 4 == 0 && (year % 100 != 0 || year % 400 == 0)

def daysOf (year month : Nat) : Nat :=
  if month = 2 then if isLeapYear year then 29 else 28
  else if month = 4 ∨ month = 6 ∨ month = 9 ∨ month = 11 then 30
  else 31

def date : Reader Unit := do
  let year ← fixed 4 0 9999
  char '-'
  let month ← fixed 2 1 12
  char '-'
  let day ← fixed 2 1 31
  ensure (day ≤ daysOf year month)

def timeOfDay : Reader Unit := do
  let _ ← fixed 2 0 23
  char ':'
  let _ ← fixed 2 0 59
  char ':'
  let _ ← fixed 2 0 60
  let _ ← optional do
    char '.'
    span1 isDigit
  pure ()

/-- Take an offset from universal time. -/
def offset : Reader Unit := do
  let mark ← one fun char => char == 'Z' || char == 'z' || char == '+' || char == '-'
  if mark == '+' || mark == '-' then
    let _ ← fixed 2 0 23
    char ':'
    let _ ← fixed 2 0 59
  else pure ()

def timeBehindDate : Reader Unit := do
  let _ ← one fun char => char == 'T' || char == 't' || char == ' '
  timeOfDay
  let _ ← optional offset
  pure ()

def moment : Reader Unit :=
  either
    (do
      date
      let _ ← optional timeBehindDate
      pure ())
    timeOfDay

end NativeBoundary.Toml.Reader
