/-! Binary64 numbers read off their bits and built from exact quotients. -/

namespace ConsulLookup.Binary64

/-- What a binary64 word stands for: a finite `±mantissa · 2 ^ exponent`, an infinity, or NaN. -/
inductive Decoded where
  | finite (negative : Bool) (mantissa : Nat) (exponent : Int)
  | infinity (negative : Bool)
  | nan
  deriving DecidableEq, Repr

/-- The least binary exponent: subnormal numbers are multiples of `2 ^ -1074`. -/
def minExponent : Int := -1074

/-- The greatest exponent of a finite number with a 53-bit mantissa. -/
def maxExponent : Int := 971

/-- The fields of a binary64 word: sign bit, eleven exponent bits and 52 fraction bits. -/
def decodeBits (bits : Nat) : Decoded :=
  let negative := bits / Nat.pow 2 63 % 2 == 1
  let field := bits / Nat.pow 2 52 % Nat.pow 2 11
  let fraction := bits % Nat.pow 2 52
  if field = Nat.pow 2 11 - 1 then
    if fraction = 0 then .infinity negative else .nan
  else if field = 0 then .finite negative fraction minExponent
  else .finite negative (fraction + Nat.pow 2 52) (Int.ofNat field - 1075)

/-- What a float stands for. -/
def decode (x : Float) : Decoded :=
  decodeBits x.toBits.toNat

/-- The word of a finite number with mantissa below `2 ^ 53`, or of an infinity when the exponent
is past the greatest. A mantissa below `2 ^ 52` is subnormal and has the least exponent. -/
def encodeBits (negative : Bool) (mantissa : Nat) (exponent : Int) : Nat :=
  let sign := if negative then Nat.pow 2 63 else 0
  if exponent > maxExponent then sign + (Nat.pow 2 11 - 1) * Nat.pow 2 52
  else if mantissa < Nat.pow 2 52 then sign + mantissa
  else sign + (exponent + 1075).toNat * Nat.pow 2 52 + (mantissa - Nat.pow 2 52)

/-- The quotient and remainder of `num / den` scaled by `2 ^ -exponent`. -/
def scaledDiv (num den : Nat) (exponent : Int) : Nat × Nat :=
  let n := num * Nat.pow 2 (-exponent).toNat
  let d := den * Nat.pow 2 exponent.toNat
  (n / d, n % d)

/-- The divisor `scaledDiv` uses at an exponent. -/
def scaledDen (den : Nat) (exponent : Int) : Nat :=
  den * Nat.pow 2 exponent.toNat

/-- The exponent at which the truncated mantissa of `num / den` has 53 bits, or the least
exponent for a quotient below the normal range. -/
def mantissaExponent (num den : Nat) : Int :=
  let guess := max minExponent (Int.ofNat num.log2 - Int.ofNat den.log2 - 52)
  if (scaledDiv num den guess).1 ≥ Nat.pow 2 53 then guess + 1
  else if (scaledDiv num den guess).1 < Nat.pow 2 52 && guess > minExponent then guess - 1
  else guess

/-- The mantissa and exponent of `num / den` rounded to 53 bits, a tie going to even. -/
def roundQuotient (num den : Nat) : Nat × Int :=
  let e := mantissaExponent num den
  let (q, r) := scaledDiv num den e
  let d := scaledDen den e
  let up := 2 * r > d || (2 * r = d && q % 2 = 1)
  let q' := if up then q + 1 else q
  if q' = Nat.pow 2 53 then (Nat.pow 2 52, e + 1) else (q', e)

/-- The binary64 nearest to `±num / den`, a tie going to the even mantissa; a zero numerator
gives a zero of the sign asked for. -/
def nearest (negative : Bool) (num den : Nat) : Float :=
  if num = 0 || den = 0 then Float.ofBits (UInt64.ofNat (if negative then Nat.pow 2 63 else 0))
  else
    let (m, e) := roundQuotient num den
    Float.ofBits (UInt64.ofNat (encodeBits negative m e))

/-- An infinity of the sign asked for. -/
def infinity (negative : Bool) : Float :=
  Float.ofBits (UInt64.ofNat (encodeBits negative 0 (maxExponent + 1)))

/-- The number of decimal digits of a natural number, one for zero. -/
def decimalLength (n : Nat) : Nat :=
  (Nat.toDigits 10 n).length

/-- The binary64 nearest to `±digits · 10 ^ exp10`. Past about `10 ^ 310` the answer is an
infinity and below `10 ^ -330` a zero, so no larger power of ten is formed. -/
def ofDecimal (negative : Bool) (digits : Nat) (exp10 : Int) : Float :=
  let size := Int.ofNat (decimalLength digits) + exp10
  if digits = 0 || size < -330 then nearest negative 0 1
  else if size > 310 then infinity negative
  else nearest negative (digits * Nat.pow 10 exp10.toNat) (Nat.pow 10 (-exp10).toNat)

/-- The binary64 nearest to a rational number. -/
def ofRat (r : Rat) : Float :=
  nearest (r < 0) r.num.natAbs r.den

/-- The exact rational a finite float stands for. -/
def Decoded.toRat? : Decoded → Option Rat
  | .finite negative m e =>
    let magnitude : Rat :=
      if e ≥ 0 then ((m * Nat.pow 2 e.toNat : Nat) : Rat) else mkRat (m : Int) (Nat.pow 2 (-e).toNat)
    some (if negative then -magnitude else magnitude)
  | _ => none

/-- The exact rational a float stands for, when it is finite. -/
def toRat? (x : Float) : Option Rat :=
  (decode x).toRat?

/-- The integer a finite float truncates to, toward zero. -/
def Decoded.truncate? : Decoded → Option Int
  | .finite negative m e =>
    let magnitude : Nat := if e ≥ 0 then m * Nat.pow 2 e.toNat else m / Nat.pow 2 (-e).toNat
    some (if negative then -(magnitude : Int) else magnitude)
  | _ => none

example : decodeBits 0x3FF0000000000000 = .finite false (2 ^ 52) (-52) := by decide
example : decodeBits 0x7FF0000000000000 = .infinity false := by decide
example : decodeBits 1 = .finite false 1 (-1074) := by decide

end ConsulLookup.Binary64
