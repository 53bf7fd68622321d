import Typeahead.Toml.Moment
import Typeahead.Toml.Quoted

namespace Typeahead.Toml

-- Digits; underscores may stand between them, one at a time.
def readDigits (isDigit : Char → Bool) (text : Text) : Option (Text × Text) :=
  let isPart (c : Char) := isDigit c || c = '_'
  let groups := (text.takeWhile isPart).splitOn '_'
  if groups.any List.isEmpty then none else some (groups.flatten, text.dropWhile isPart)

def readSign : Text → Bool × Text
  | '-' :: rest => (true, rest)
  | '+' :: rest => (false, rest)
  | text => (false, text)

def readWhole : Text → Option (Text × Text)
  | '0' :: rest => some (['0'], rest)
  | text => readDigits Text.isDigit text

def mostInteger : Int := 0x7fffffffffffffff

def integer? (n : Int) : Option Toml :=
  if -mostInteger - 1 ≤ n ∧ n ≤ mostInteger then some (.integer n) else none

def signedInt (negative : Bool) (n : Nat) : Int := if negative then -n else n

def digitValue (c : Char) : Nat := (Text.hexDigit? c).getD 0

def valueInBase (base : Nat) (digits : Text) : Nat :=
  digits.foldl (fun n c => n * base + digitValue c) 0

def readInBase (base : Nat) (text : Text) : Option (Toml × Text) := do
  let (digits, rest) ← readDigits (fun c => (Text.hexDigit? c).any (· < base)) text
  return (← integer? (valueInBase base digits), rest)

def readExponent (text : Text) : Option (Int × Text) := do
  let (negative, text) := readSign text
  let (digits, rest) ← readDigits Text.isDigit text
  return (signedInt negative (Text.decimalValue digits), rest)

-- A number above the range is none, one below it counts as minus infinity.
def float? (negative : Bool) (digits : Text) (power : Int) : Option Toml :=
  match Binary64.ofDecimal negative (Text.decimalValue digits) power with
  | .infinite false => none
  | x => some (.float x)

def isExponentMark (c : Char) : Bool := c = 'e' || c = 'E'

def readFraction (negative : Bool) (whole : Text) : Text → Option (Toml × Text)
  | '.' :: rest => do
    let (part, rest) ← readDigits Text.isDigit rest
    let (power, rest) ← match rest with
      | c :: more => if isExponentMark c then readExponent more else some (0, c :: more)
      | [] => some (0, [])
    return (← float? negative (whole ++ part) (power - part.length), rest)
  | c :: rest =>
    if isExponentMark c then do
      let (power, rest) ← readExponent rest
      return (← float? negative whole power, rest)
    else do
      return (← integer? (signedInt negative (Text.decimalValue whole)), c :: rest)
  | [] => do return (← integer? (signedInt negative (Text.decimalValue whole)), [])

def readNumber : Text → Option (Toml × Text)
  | '0' :: 'x' :: rest => readInBase 16 rest
  | '0' :: 'o' :: rest => readInBase 8 rest
  | '0' :: 'b' :: rest => readInBase 2 rest
  | text =>
    match readSign text with
    | (negative, 'i' :: 'n' :: 'f' :: rest) => some (.float (.infinite negative), rest)
    | (_, 'n' :: 'a' :: 'n' :: rest) => some (.float .nan, rest)
    | (negative, rest) => do
      let (whole, rest) ← readWhole rest
      readFraction negative whole rest

def readScalar : Text → Option (Toml × Text)
  | 't' :: 'r' :: 'u' :: 'e' :: rest => some (.boolean true, rest)
  | 'f' :: 'a' :: 'l' :: 's' :: 'e' :: rest => some (.boolean false, rest)
  | text => if startsDate text || startsTime text then readMoment text else readNumber text

end Typeahead.Toml
