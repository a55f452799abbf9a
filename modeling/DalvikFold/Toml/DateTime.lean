import DalvikFold.Text.Numeral
import DalvikFold.Toml.Reading

namespace DalvikFold
namespace Toml

/-!
Dates and times of day.

A moment is a date, a time of day, or both with a letter or one blank between
them and then perhaps an offset.  It is checked against the calendar and the
clock, and kept as it is written.
-/

/-- A number of exactly the given count of decimal digits, within bounds. -/
def fixedNumber (digits low high : Nat) : Reading Nat := fun text =>
  match Text.readNumeral? 10 (text.take digits) with
  | some number =>
      if digits ≤ text.length ∧ low ≤ number ∧ number ≤ high then
        some (number, text.drop digits)
      else
        none
  | none => none

def daysInMonth (year month : Nat) : Nat :=
  if month = 2 then
    if year % 4 = 0 ∧ (year % 100 ≠ 0 ∨ year % 400 = 0) then 29 else 28
  else if month = 4 ∨ month = 6 ∨ month = 9 ∨ month = 11 then
    30
  else
    31

def date : Reading Unit := do
  let year <- fixedNumber 4 0 9999
  Reading.expect ['-']
  let month <- fixedNumber 2 1 12
  Reading.expect ['-']
  let _ <- fixedNumber 2 1 (daysInMonth year month)

/-- A time of day; the sixtieth second is there for leap seconds. -/
def timeOfDay : Reading Unit := do
  let _ <- fixedNumber 2 0 23
  Reading.expect [':']
  let _ <- fixedNumber 2 0 59
  Reading.expect [':']
  let _ <- fixedNumber 2 0 60
  if <- Reading.skip ['.'] then
    if (<- Reading.takeWhile Char.isDigit).isEmpty then failure

def offset : Reading Unit := do
  match <- Reading.next with
  | 'Z' => return
  | 'z' => return
  | '+' => hoursAndMinutes
  | '-' => hoursAndMinutes
  | _ => failure
where
  hoursAndMinutes : Reading Unit := do
    let _ <- fixedNumber 2 0 23
    Reading.expect [':']
    let _ <- fixedNumber 2 0 59

/-- A time of day with an optional offset. -/
def timeWithOffset : Reading Unit := do
  timeOfDay
  offset <|> pure ()

/-- The time after a date, with the letter or blank before it. -/
def timeAfterDate : Reading Unit := do
  let mark <- Reading.next
  if mark == 'T' || mark == 't' || mark == ' ' then timeWithOffset else failure

/-- A date with or without a time, or a time of day. -/
def moment : Reading Unit :=
  (do date; timeAfterDate <|> pure ()) <|> timeOfDay

def momentText : Reading String := fun text =>
  (moment text).map (fun (_, rest) => (String.ofList (text.take (text.length - rest.length)), rest))

end Toml
end DalvikFold
