import Typeahead.Text.Digit

namespace Typeahead.Text

def digits? (text : Text) : Option Nat :=
  if text.isEmpty || !text.all isDigit then none else some (decimalValue text)

def natural? : Text → Option Nat
  | '+' :: rest => digits? rest
  | text => digits? text

def dropSign : Text → Text
  | '+' :: rest => rest
  | '-' :: rest => rest
  | text => text

def isExponent : Text → Bool
  | [] => true
  | c :: rest => (c = 'e' || c = 'E') && (digits? (dropSign rest)).isSome

-- Digits with at most one point before, among or after them and then perhaps an exponent, or a
-- word for a number that has no digits.
def isFloat (text : Text) : Bool :=
  let whole := text.takeWhile isDigit
  let (part, rest) := match text.dropWhile isDigit with
    | '.' :: rest => (rest.takeWhile isDigit, rest.dropWhile isDigit)
    | rest => ([], rest)
  !(whole.isEmpty && part.isEmpty) && isExponent rest
    || ["inf".toList, "infinity".toList, "nan".toList].contains (text.map Char.toLower)

def count32 : Nat := 0x100000000

def count64 : Nat := 0x10000000000000000

def word64? (text : Text) : Option Nat :=
  (natural? text).bind fun n => if n < count64 then some n else none

end Typeahead.Text
