import VirtualHosts.Toml.Number

/-!
Dates and times: a date, a time of day, or both with a `T` or a space between
them and perhaps an offset.
-/

namespace VirtualHosts.Toml

open VirtualHosts.Text

/-- A number of exactly `count` digits with a value in the bounds. -/
def fixed? (count least greatest : Nat) : Reader Nat := fun s =>
  let digits := s.take count
  if digits.length = count && digits.all Char.isDigit then
    let value := ofDigits 10 digits
    if least ≤ value && value ≤ greatest then some (value, s.drop count)
    else none
  else none

def isLeapYear (year : Nat) : Bool :=
  year % 4 = 0 && (year % 100 ≠ 0 || year % 400 = 0)

def daysIn (year month : Nat) : Nat :=
  if month = 2 then if isLeapYear year then 29 else 28
  else if month = 4 || month = 6 || month = 9 || month = 11 then 30
  else 31

/-- What follows a date. -/
def afterDate? (s : List Char) : Option (List Char) := do
  let (year, s) ← fixed? 4 0 9999 s
  let s ← dropLead? ['-'] s
  let (month, s) ← fixed? 2 1 12 s
  let s ← dropLead? ['-'] s
  let (_, s) ← fixed? 2 1 (daysIn year month) s
  return s

/-- What follows the decimals of a second, if there are any. -/
def skipDecimals (s : List Char) : List Char :=
  match s with
  | '.' :: rest =>
      if (rest.takeWhile Char.isDigit).isEmpty then s
      else rest.dropWhile Char.isDigit
  | _ => s

/-- What follows a time of day.  A second may be the sixty-first. -/
def afterTime? (s : List Char) : Option (List Char) := do
  let (_, s) ← fixed? 2 0 23 s
  let s ← dropLead? [':'] s
  let (_, s) ← fixed? 2 0 59 s
  let s ← dropLead? [':'] s
  let (_, s) ← fixed? 2 0 60 s
  return skipDecimals s

def afterHours? (s : List Char) : Option (List Char) := do
  let (_, s) ← fixed? 2 0 23 s
  let s ← dropLead? [':'] s
  let (_, s) ← fixed? 2 0 59 s
  return s

/-- What follows an offset, if there is one. -/
def skipOffset (s : List Char) : List Char :=
  match s with
  | c :: rest =>
      if c = 'Z' || c = 'z' then rest
      else if c = '+' || c = '-' then (afterHours? rest).getD s
      else s
  | [] => s

/-- What follows the time after a date, if there is one. -/
def skipTime (s : List Char) : List Char :=
  match s with
  | c :: rest =>
      if c = 'T' || c = 't' || c = ' ' then
        match afterTime? rest with
        | some rest => skipOffset rest
        | none => s
      else s
  | [] => s

def moment? : Reader Value := fun s =>
  let rest? :=
    match afterDate? s with
    | some rest => some (skipTime rest)
    | none => afterTime? s
  rest?.map fun rest => (.moment (taken s rest), rest)

end VirtualHosts.Toml
