namespace Typeahead

inductive Binary64 where
  | nan
  | infinite (negative : Bool)
  | finite (negative : Bool) (mantissa : Nat) (exponent : Int)
  deriving DecidableEq, Repr

namespace Binary64

structure Fraction where
  num : Nat
  den : Nat

namespace Fraction

def scale (base : Nat) (f : Fraction) : Int → Fraction
  | .ofNat n => ⟨f.num * base.pow n, f.den⟩
  | .negSucc n => ⟨f.num, f.den * base.pow (n + 1)⟩

def floor (f : Fraction) : Nat := f.num / f.den

def le (a b : Fraction) : Bool := a.num * b.den ≤ b.num * a.den

-- The nearest whole number; `up` says of the lower one whether half above it goes up.
def nearest (up : Nat → Bool) (f : Fraction) : Nat :=
  let below := f.floor
  let left := 2 * (f.num % f.den)
  if left < f.den then below
  else if f.den < left then below + 1
  else if up below then below + 1
  else below

end Fraction

def leastMantissa : Nat := 0x10000000000000

def leastExponent : Int := -1074

def mostExponent : Int := 971

-- Half goes to the even neighbour. At the first guess the mantissa has 52 or 53 bits.
def ofFraction (negative : Bool) (f : Fraction) : Binary64 :=
  if f.num = 0 then .finite negative 0 0
  else
    let guess : Int := (f.num.log2 : Int) - (f.den.log2 : Int) - 52
    let guess := if (f.scale 2 (-guess)).floor < leastMantissa then guess - 1 else guess
    let exponent := max leastExponent guess
    let mantissa := (f.scale 2 (-exponent)).nearest fun below => below % 2 = 1
    let (mantissa, exponent) :=
      if mantissa = 2 * leastMantissa then (leastMantissa, exponent + 1) else (mantissa, exponent)
    if mostExponent < exponent then .infinite negative else .finite negative mantissa exponent

def decimalLength (n : Nat) : Nat := (Nat.toDigits 10 n).length

-- `digits` times a power of ten. Far outside the range no power is computed.
def ofDecimal (negative : Bool) (digits : Nat) (power : Int) : Binary64 :=
  let size : Int := (decimalLength digits : Int) + power
  if digits = 0 ∨ size < -330 then .finite negative 0 0
  else if 310 < size then .infinite negative
  else ofFraction negative (Fraction.scale 10 ⟨digits, 1⟩ power)

def magnitude (mantissa : Nat) (exponent : Int) : Fraction :=
  Fraction.scale 2 ⟨mantissa, 1⟩ exponent

def toNatWithin (limit : Nat) : Binary64 → Nat
  | .nan => 0
  | .infinite negative => if negative then 0 else limit
  | .finite negative mantissa exponent =>
    if negative then 0 else min limit ((magnitude mantissa exponent).nearest fun _ => true)

end Binary64
end Typeahead
