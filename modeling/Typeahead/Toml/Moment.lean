import Typeahead.Text.Digit
import Typeahead.Toml.Basic

namespace Typeahead.Toml

def readField (count least most : Nat) (text : Text) : Option (Nat × Text) :=
  let digits := text.take count
  let n := Text.decimalValue digits
  if digits.length = count && digits.all Text.isDigit && least ≤ n && n ≤ most
  then some (n, text.drop count) else none

def readMark (mark : Char) : Text → Option Text
  | c :: rest => if c = mark then some rest else none
  | [] => none

def isLeapYear (year : Nat) : Bool := year % 4 = 0 && (year % 100 ≠ 0 || year % 400 = 0)

def daysOf (year month : Nat) : Nat :=
  if month = 2 then (if isLeapYear year then 29 else 28)
  else if month = 4 ∨ month = 6 ∨ month = 9 ∨ month = 11 then 30
  else 31

def readDate (text : Text) : Option (Text × Text) := do
  let (year, rest) ← readField 4 0 9999 text
  let (month, rest) ← readField 2 1 12 (← readMark '-' rest)
  let (_, rest) ← readField 2 1 (daysOf year month) (← readMark '-' rest)
  return (text.take 10, rest)

-- Nine places of a second count, and zeros at their end do not.
def readSecondPart : Text → Option (Text × Text)
  | '.' :: rest =>
    let digits := rest.takeWhile Text.isDigit
    if digits.isEmpty then none
    else
      let shown := ((digits.take 9).reverse.dropWhile (· = '0')).reverse
      some (if shown.isEmpty then [] else '.' :: shown, rest.dropWhile Text.isDigit)
  | text => some ([], text)

def readTime (mostHour : Nat) (text : Text) : Option (Text × Text) := do
  let (_, rest) ← readField 2 0 mostHour text
  let (_, rest) ← readField 2 0 59 (← readMark ':' rest)
  let (_, rest) ← readField 2 0 60 (← readMark ':' rest)
  let (part, rest) ← readSecondPart rest
  return (text.take 8 ++ part, rest)

def twoDigits (n : Nat) : Text := Nat.toDigits 10 (n / 10) ++ Nat.toDigits 10 (n % 10)

def minutesOfDay : Nat := 1440

-- No distance from the common time is a distance ahead of it.
def readOffset (mostHour mostMinute : Nat) : Text → Option (Text × Text)
  | [] => some ([], [])
  | c :: rest =>
    if c = 'Z' ∨ c = 'z' then some (['Z'], rest)
    else if c = '+' ∨ c = '-' then do
      let (hours, rest) ← readField 2 0 mostHour rest
      let (minutes, rest) ← readField 2 0 mostMinute (← readMark ':' rest)
      let total := hours * 60 + minutes
      if minutesOfDay < total then none
      let sign := if total = 0 then '+' else c
      return (sign :: twoDigits (total / 60) ++ ':' :: twoDigits (total % 60), rest)
    else some ([], c :: rest)

def isTimeMark (c : Char) : Bool := c = 'T' || c = 't' || c = ' '

def startsTime (text : Text) : Bool :=
  (readField 2 0 23 text).any fun (_, rest) => rest.head? = some ':'

def startsDate (text : Text) : Bool :=
  (readField 4 0 9999 text).any fun (_, rest) => rest.head? = some '-'

def readMoment (text : Text) : Option (Toml × Text) :=
  if startsDate text then do
    let (date, rest) ← readDate text
    match rest with
    | c :: more =>
      if isTimeMark c ∧ startsTime more then
        let (time, more) ← readTime 23 more
        let (offset, more) ← readOffset 23 59 more
        return (.moment (date ++ 'T' :: time ++ offset), more)
      else return (.moment date, rest)
    | [] => return (.moment date, [])
  else do
    let (time, rest) ← readTime 23 text
    return (.moment time, rest)

def momentOfText? (text : Text) : Option Text :=
  if text[2]? = some ':' then do
    let (time, rest) ← readTime 24 text
    if rest.isEmpty then return time else none
  else do
    let (date, rest) ← readDate text
    match rest with
    | [] => return date
    | c :: more =>
      if !isTimeMark c then none
      let (time, more) ← readTime 24 more
      let (offset, more) ← readOffset 99 99 more
      if more.isEmpty then return date ++ 'T' :: time ++ offset else none

def momentName : Text := "$__toml_private_datetime".toList

-- `none` for a table that should mean a date or time and does not.
mutual
def withMoments? : Toml → Option Toml
  | .array items => return .array (← itemsWithMoments? items)
  | .table ((name, value) :: rest) =>
    if name = momentName then
      match value with
      | .string text => (momentOfText? text).map .moment
      | _ => none
    else return .table ((name, ← withMoments? value) :: (← entriesWithMoments? rest))
  | value => some value

def itemsWithMoments? : List Toml → Option (List Toml)
  | [] => some []
  | item :: rest => return (← withMoments? item) :: (← itemsWithMoments? rest)

def entriesWithMoments? : List (Text × Toml) → Option (List (Text × Toml))
  | [] => some []
  | (name, value) :: rest => return (name, ← withMoments? value) :: (← entriesWithMoments? rest)
end

end Typeahead.Toml
