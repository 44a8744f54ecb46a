import QueryTemplate.Reader
import QueryTemplate.Toml.Value

/-!
Moments: a date, a time of day, or a date with a time of day and possibly an offset. They are read
for their form alone, but the numbers in them have to exist: a month has its days, and an hour
sixty minutes.
-/

namespace QueryTemplate.Toml

open Reader

def twoDigits (low high : Nat) : Reader Nat := do
  let n ← fixedDigits 10 2
  if low ≤ n ∧ n ≤ high then return n else failure

def isLeapYear (year : Nat) : Bool :=
  year % 4 = 0 && (year % 100 ≠ 0 || year % 400 = 0)

def daysInMonth (year month : Nat) : Nat :=
  if month = 2 then (if isLeapYear year then 29 else 28)
  else if month = 4 ∨ month = 6 ∨ month = 9 ∨ month = 11 then 30
  else 31

def date : Reader Unit := do
  let year ← fixedDigits 10 4
  char '-'
  let month ← twoDigits 1 12
  char '-'
  let _ ← twoDigits 1 (daysInMonth year month)

/-- A time of day. The last minute of a day may have a leap second. -/
def timeOfDay : Reader Unit := do
  let _ ← twoDigits 0 23
  char ':'
  let _ ← twoDigits 0 59
  char ':'
  let _ ← twoDigits 0 60
  let _ ← maybe do
    char '.'
    let _ ← satisfy (isDigitOf 10)
    span (isDigitOf 10)

def offset : Reader Unit :=
  char 'Z' <|> char 'z' <|> do
    char '+' <|> char '-'
    let _ ← twoDigits 0 23
    char ':'
    let _ ← twoDigits 0 59

def moment : Reader Value :=
  (do
    date
    let _ ← maybe do
      char 'T' <|> char 't' <|> char ' '
      timeOfDay
      maybe offset
    return .moment) <|>
  (do
    timeOfDay
    return .moment)

end QueryTemplate.Toml
