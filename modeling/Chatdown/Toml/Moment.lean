/-!
# Dates and times of TOML

A date, a time of day, or both, and behind both perhaps the distance from universal
time. What is read is written again in its plainest form: `T` between date and time,
`Z` for universal time, and a fraction of at most nine digits without zeros at its
end.
-/

namespace Chatdown.Toml.Moment

/-- The value of decimal digits. -/
def digitsValue (digits : List Char) : Nat :=
  digits.foldl (fun n c => 10 * n + (c.toNat - 48)) 0

/-- A field of some digits whose value lies within bounds, and what follows it. -/
def field? (count low high : Nat) (s : List Char) : Option (List Char × List Char) :=
  let digits := s.take count
  if digits.length = count ∧ digits.all Char.isDigit ∧ low ≤ digitsValue digits ∧
      digitsValue digits ≤ high then
    some (digits, s.drop count)
  else none

/-- What follows a character. -/
def past? (c : Char) : List Char → Option (List Char)
  | first :: rest => if first = c then some rest else none
  | [] => none

/-- The number of days of a month. -/
def daysIn (year month : Nat) : Nat :=
  if month = 2 then
    if year % 4 = 0 ∧ (year % 100 ≠ 0 ∨ year % 400 = 0) then 29 else 28
  else if [4, 6, 9, 11].contains month then 30
  else 31

/-- A date and what follows it. -/
def date? (s : List Char) : Option (List Char × List Char) := do
  let (year, s) ← field? 4 0 9999 s
  let (month, s) ← field? 2 1 12 (← past? '-' s)
  let (day, s) ← field? 2 1 (daysIn (digitsValue year) (digitsValue month)) (← past? '-' s)
  return (year ++ '-' :: month ++ '-' :: day, s)

/-- A fraction of a second, behind its point, and what follows it. -/
def fraction? (s : List Char) : Option (List Char × List Char) :=
  let digits := s.takeWhile Char.isDigit
  let kept := ((digits.take 9).reverse.dropWhile (· = '0')).reverse
  if digits.isEmpty then none
  else some (if kept.isEmpty then [] else '.' :: kept, s.dropWhile Char.isDigit)

/-- A time of day and what follows it. -/
def time? (s : List Char) : Option (List Char × List Char) := do
  let (hour, s) ← field? 2 0 23 s
  let (minute, s) ← field? 2 0 59 (← past? ':' s)
  let (second, s) ← field? 2 0 60 (← past? ':' s)
  let (fraction, s) ←
    match s with
    | '.' :: s => fraction? s
    | s => some ([], s)
  return (hour ++ ':' :: minute ++ ':' :: second ++ fraction, s)

/-- The distance from universal time, up to the end. -/
def offset? : List Char → Option (List Char)
  | [] => some []
  | ['Z'] => some ['Z']
  | ['z'] => some ['Z']
  | sign :: s => do
    let (hour, s) ← field? 2 0 23 s
    let (minute, s) ← field? 2 0 59 (← past? ':' s)
    if ¬s.isEmpty then none
    else if sign = '+' ∨ (hour ++ minute).all (· = '0') ∧ sign = '-' then
      some ('+' :: hour ++ ':' :: minute)
    else if sign = '-' then some ('-' :: hour ++ ':' :: minute)
    else none

/-- The plainest form of a text that is all date or time. -/
def plain? (s : List Char) : Option (List Char) :=
  match date? s with
  | some (date, []) => some date
  | some (date, c :: s) =>
    if c = 'T' ∨ c = 't' then do
      let (time, s) ← time? s
      return date ++ 'T' :: time ++ (← offset? s)
    else none
  | none =>
    match time? s with
    | some (time, []) => some time
    | _ => none

end Chatdown.Toml.Moment
