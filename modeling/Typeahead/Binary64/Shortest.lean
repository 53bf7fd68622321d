import Typeahead.Binary64.Basic
import Typeahead.Text.Basic

namespace Typeahead.Binary64

structure Decimal where
  digits : Nat
  power : Int

namespace Decimal

def toFraction (d : Decimal) : Fraction := Fraction.scale 10 ⟨d.digits, 1⟩ d.power

def dropTrailingZeros (digits : Text) : Text := (digits.reverse.dropWhile (· = '0')).reverse

def text (d : Decimal) : Text :=
  let digits := Nat.toDigits 10 d.digits
  match d.power with
  | .ofNat n => digits ++ List.replicate n '0'
  | .negSucc n =>
    let digits := List.replicate (n + 2 - digits.length) '0' ++ digits
    let whole := digits.take (digits.length - (n + 1))
    let part := dropTrailingZeros (digits.drop (digits.length - (n + 1)))
    if part.isEmpty then whole else whole ++ '.' :: part

end Decimal

-- The `k` with `10 ^ (k - 1) ≤ f < 10 ^ k`, for a fraction above zero.
def Fraction.decimalPlace (f : Fraction) : Int :=
  if f.den ≤ f.num then decimalLength f.floor
  else
    let n := decimalLength (f.den / f.num)
    if f.den ≤ f.num * Nat.pow 10 (n - 1) then 2 - (n : Int) else 1 - (n : Int)

-- All that rounds to one number; the ends belong to it if the mantissa is even.
structure Neighbourhood where
  low : Fraction
  value : Fraction
  high : Fraction
  closed : Bool

namespace Neighbourhood

-- Below a power of two the numbers lie twice as close.
def around (mantissa : Nat) (exponent : Int) : Neighbourhood :=
  let narrow := mantissa = leastMantissa && leastExponent < exponent
  let quarters (n : Nat) := magnitude n (exponent - 2)
  ⟨quarters (4 * mantissa - if narrow then 1 else 2), quarters (4 * mantissa),
    quarters (4 * mantissa + 2), mantissa % 2 = 0⟩

def contains (n : Neighbourhood) (f : Fraction) : Bool :=
  if n.closed then n.low.le f && f.le n.high else !f.le n.low && !n.high.le f

def withDigits? (n : Neighbourhood) (count : Nat) : Option Decimal :=
  let power := n.value.decimalPlace - count
  let scaled := n.value.scale 10 (-power)
  let below : Decimal := ⟨scaled.floor, power⟩
  let above : Decimal := ⟨scaled.floor + 1, power⟩
  match n.contains below.toFraction, n.contains above.toFraction with
  | true, true => some ⟨scaled.nearest fun _ => true, power⟩
  | true, false => some below
  | false, true => some above
  | false, false => none

end Neighbourhood

-- Seventeen digits always read back.
def shortest (mantissa : Nat) (exponent : Int) : Decimal :=
  let n := Neighbourhood.around mantissa exponent
  ((List.range 17).findSome? fun i => n.withDigits? (i + 1)).getD ⟨0, 0⟩

def signed (negative : Bool) (text : Text) : Text := if negative then '-' :: text else text

def text : Binary64 → Text
  | .nan => "NaN".toList
  | .infinite negative => signed negative "inf".toList
  | .finite negative mantissa exponent =>
    signed negative (if mantissa = 0 then ['0'] else (shortest mantissa exponent).text)

end Typeahead.Binary64
