/-
ArgTaint.Yaml.Timestamp — dates and times written as plain scalars.

A date is a year of four digits, a month and a day. A time of day may follow:
after `T` or `t` with a zone, or after a space without one.

* `isTimestamp` — is a text a date, or a date and a time?
-/

namespace ArgTaint.Yaml

/-- A number of one or two digits, and the rest. -/
def shortNumber? : List Char → Option (Nat × List Char)
  | a :: b :: rest =>
    if a.isDigit then
      if b.isDigit then some ((a.toNat - 48) * 10 + (b.toNat - 48), rest)
      else some (a.toNat - 48, b :: rest)
    else none
  | [a] => if a.isDigit then some (a.toNat - 48, []) else none
  | [] => none

/-- A number of two digits, and the rest. -/
def twoDigits? : List Char → Option (Nat × List Char)
  | a :: b :: rest =>
    if a.isDigit && b.isDigit then some ((a.toNat - 48) * 10 + (b.toNat - 48), rest) else none
  | _ => none

def after? (c : Char) : List Char → Option (List Char)
  | d :: rest => if d == c then some rest else none
  | [] => none

/-- Has the year a 29th of February? -/
def isLeap (year : Nat) : Bool := year % 4 == 0 && (year % 100 != 0 || year % 400 == 0)

def daysIn (year month : Nat) : Nat :=
  if month = 2 then (if isLeap year then 29 else 28)
  else if month = 4 || month = 6 || month = 9 || month = 11 then 30
  else 31

def afterDate? (cs : List Char) : Option (List Char) := do
  let year := cs.takeWhile Char.isDigit
  if year.length ≠ 4 then none
  else
    let y := year.foldl (fun n d => n * 10 + (d.toNat - 48)) 0
    let rest ← after? '-' (cs.drop 4)
    let (month, rest) ← shortNumber? rest
    let rest ← after? '-' rest
    let (day, rest) ← shortNumber? rest
    if 1 ≤ month && month ≤ 12 && 1 ≤ day && day ≤ daysIn y month then some rest else none

/-- What follows a time of day; its seconds may have a fraction. -/
def afterTime? (cs : List Char) : Option (List Char) := do
  let (hour, rest) ← shortNumber? cs
  let rest ← after? ':' rest
  let (minute, rest) ← shortNumber? rest
  let rest ← after? ':' rest
  let (second, rest) ← shortNumber? rest
  if hour < 24 && minute < 60 && second < 60 then
    match rest with
    | p :: d :: more =>
      if (p == '.' || p == ',') && d.isDigit then some (more.dropWhile Char.isDigit)
      else some rest
    | _ => some rest
  else none

/-- Is the text a zone: `Z`, or an offset in hours and minutes? -/
def isZone : List Char → Bool
  | ['Z'] => true
  | sign :: rest =>
    (sign == '+' || sign == '-') &&
      match (twoDigits? rest).bind fun (hours, rest) =>
          (after? ':' rest).bind fun rest =>
            (twoDigits? rest).map fun (m, rest) => (hours, m, rest) with
      | some (hours, minutes, rest) => hours ≤ 24 && minutes ≤ 60 && rest.isEmpty
      | none => false
  | [] => false

/-- Is the text a date, or a date and a time? -/
def isTimestamp (cs : List Char) : Bool :=
  match afterDate? cs with
  | none => false
  | some [] => true
  | some (c :: rest) =>
    if c == 'T' || c == 't' then
      match afterTime? rest with
      | some zone => isZone zone
      | none => false
    else if c == ' ' then afterTime? (rest.dropWhile (· == ' ')) == some []
    else false

end ArgTaint.Yaml
