namespace Switchboard

/-!
Binary floating-point numbers of 64 bits, as exact values.

A finite number is a whole number below `2 ^ 53` times a power of two that is at least
`2 ^ -1074`; the whole number is at least `2 ^ 52` unless the power is the least one, so every
number has one form.  All arithmetic is exact on whole numbers, followed by one rounding to the
nearest number, a tie going to the even one.
-/

/-- A number of the 64 bit binary format. -/
inductive Binary where
  /-- The number `significand * 2 ^ exponent`, below zero if `negative`. -/
  | finite (negative : Bool) (significand : Nat) (exponent : Int)
  | infinite (negative : Bool)
  | notANumber
deriving Repr, DecidableEq, Inhabited

namespace Binary

/-- The exponent of the smallest numbers. -/
def leastExponent : Int := -1074

/-- The exponent of the greatest numbers. -/
def greatestExponent : Int := 971

/-- The least significand of a number whose exponent is not the least one. -/
def hiddenBit : Nat := 1 <<< 52

/-- Zero. -/
def zero : Binary := .finite false 0 leastExponent

/-- A quotient rounded to the nearest whole number, a tie going to the even one. -/
def roundHalfEven (numerator denominator : Nat) : Nat :=
  let quotient := numerator / denominator
  let rest := numerator % denominator
  if 2 * rest > denominator || (2 * rest == denominator && quotient % 2 == 1) then quotient + 1
  else quotient

/-- The numerator and denominator of a quotient divided by a power of two. -/
def dividedBy (numerator denominator : Nat) (exponent : Int) : Nat × Nat :=
  if 0 <= exponent then (numerator, denominator <<< exponent.toNat)
  else (numerator <<< (-exponent).toNat, denominator)

/-- The number nearest to a quotient. -/
def ofRatio (negative : Bool) (numerator denominator : Nat) : Binary :=
  if numerator = 0 || denominator = 0 then .finite negative 0 leastExponent
  else
    let bits : Int := (numerator.log2 : Int) - (denominator.log2 : Int)
    let guess := max leastExponent (bits - 53)
    let parts := dividedBy numerator denominator guess
    let exponent := if 2 * hiddenBit <= parts.1 / parts.2 then guess + 1 else guess
    let scaled := dividedBy numerator denominator exponent
    let significand := roundHalfEven scaled.1 scaled.2
    let carried := significand == 2 * hiddenBit
    let significand := if carried then hiddenBit else significand
    let exponent := if carried then exponent + 1 else exponent
    if greatestExponent < exponent then .infinite negative
    else .finite negative significand exponent

/-- The number nearest to `digits * 10 ^ exponent`. Exponents so far out that the answer cannot
depend on the digits are settled without computing the power. -/
def ofDecimal (negative : Bool) (digits : Nat) (exponent : Int) : Binary :=
  let magnitude : Int := (Nat.toDigits 10 digits).length + exponent
  if digits = 0 || magnitude < -400 then .finite negative 0 leastExponent
  else if 400 < magnitude then .infinite negative
  else if 0 <= exponent then ofRatio negative (digits * Nat.pow 10 exponent.toNat) 1
  else ofRatio negative digits (Nat.pow 10 (-exponent).toNat)

/-- The number nearest to a whole number. -/
def ofInt (n : Int) : Binary := ofDecimal (n < 0) n.natAbs 0

/-- The size of a finite number as a quotient. -/
def ratio (significand : Nat) (exponent : Int) : Nat × Nat :=
  if 0 <= exponent then (significand <<< exponent.toNat, 1)
  else (significand, 1 <<< (-exponent).toNat)

/-- Whether a number is at most another one; a value that is not a number compares to nothing. -/
def atMost : Binary -> Binary -> Bool
  | .notANumber, _ => false
  | _, .notANumber => false
  | .infinite true, _ => true
  | _, .infinite false => true
  | .infinite false, _ => false
  | _, .infinite true => false
  | .finite negative significand exponent, .finite negative' significand' exponent' =>
      let (a, b) := ratio significand exponent
      let (a', b') := ratio significand' exponent'
      let left : Int := if negative then -(a * b' : Nat) else (a * b' : Nat)
      let right : Int := if negative' then -(a' * b : Nat) else (a' * b : Nat)
      left <= right

/-- The whole number that a finite number is, if it is one. -/
def toInt? : Binary -> Option Int
  | .finite negative significand exponent =>
      let (a, b) := ratio significand exponent
      if a % b = 0 then some (if negative then -((a / b : Nat) : Int) else (a / b : Nat)) else none
  | _ => none

/-- Whether a number is not an infinity and is a number. -/
def isFinite : Binary -> Bool
  | .finite _ _ _ => true
  | _ => false

/-- Whether a number equals zero. -/
def isZero : Binary -> Bool
  | .finite _ significand _ => significand == 0
  | _ => false

/-- Whether two numbers are equal as numbers: the zeros are, and what is not a number equals
nothing. -/
def equals (a b : Binary) : Bool := a.atMost b && b.atMost a

/-- A finite number in place of its negative and the other way round. -/
def negate : Binary -> Binary
  | .finite negative significand exponent => .finite (!negative) significand exponent
  | .infinite negative => .infinite (!negative)
  | .notANumber => .notANumber

/-- The sum of two numbers. -/
def add : Binary -> Binary -> Binary
  | .finite negative significand exponent, .finite negative' significand' exponent' =>
      let (a, b) := ratio significand exponent
      let (a', b') := ratio significand' exponent'
      let left : Int := if negative then -(a * b' : Nat) else (a * b' : Nat)
      let right : Int := if negative' then -(a' * b : Nat) else (a' * b : Nat)
      if left + right = 0 then .finite (negative && negative') 0 leastExponent
      else ofRatio (left + right < 0) (left + right).natAbs (b * b')
  | .notANumber, _ => .notANumber
  | _, .notANumber => .notANumber
  | .infinite negative, .infinite negative' =>
      if negative = negative' then .infinite negative else .notANumber
  | .infinite negative, _ => .infinite negative
  | _, .infinite negative => .infinite negative

/-- The product of two numbers. -/
def multiply : Binary -> Binary -> Binary
  | .finite negative significand exponent, .finite negative' significand' exponent' =>
      let (a, b) := ratio significand exponent
      let (a', b') := ratio significand' exponent'
      ofRatio (negative != negative') (a * a') (b * b')
  | .notANumber, _ => .notANumber
  | _, .notANumber => .notANumber
  | .infinite negative, .infinite negative' => .infinite (negative != negative')
  | .infinite negative, .finite negative' significand _ =>
      if significand = 0 then .notANumber else .infinite (negative != negative')
  | .finite negative significand _, .infinite negative' =>
      if significand = 0 then .notANumber else .infinite (negative != negative')

end Binary
end Switchboard
