import Switchboard.Number.Binary
import Switchboard.Text.Basic

namespace Switchboard
namespace Binary

/-!
The shortest decimal text of a number.

Of all decimals that round to the number, the ones with the fewest digits are taken, and of these
the nearest one.  They are found on decimal grids of one to seventeen digits: if a point of a grid
rounds to the number, so does one of the two neighbours of the number on that grid.  Digits are
written positionally for numbers from `10 ^ -4` up to, not including, `10 ^ 16`, and with an
exponent of at least two digits beyond; a whole number keeps a zero after its point.
-/

/-- The bounds of the decimals that round to a number, all over one denominator: the number, the
lower and the upper bound, and the denominator. -/
structure Neighbourhood where
  value : Nat
  lower : Nat
  upper : Nat
  denominator : Nat
  /-- Whether the bounds themselves round to the number. -/
  closed : Bool

/-- The neighbourhood of a finite number above zero. The gap below a power of two is half as wide
as the gap above it. -/
def neighbourhood (significand : Nat) (exponent : Int) : Neighbourhood :=
  let narrow := significand == hiddenBit && leastExponent < exponent
  let (unit, denominator) :=
    if 0 <= exponent then (1 <<< exponent.toNat, 1) else (1, 1 <<< (-exponent).toNat)
  { value := 4 * significand * unit
    lower := 4 * significand * unit - (if narrow then unit else 2 * unit)
    upper := 4 * significand * unit + 2 * unit
    denominator := 4 * denominator
    closed := significand % 2 == 0 }

/-- Whether a decimal `digits * 10 ^ power` rounds to the number of a neighbourhood. -/
def Neighbourhood.holds (near : Neighbourhood) (digits : Nat) (power : Int) : Bool :=
  let (a, b) :=
    if 0 <= power then (digits * Nat.pow 10 power.toNat, 1) else (digits, Nat.pow 10 (-power).toNat)
  let point := a * near.denominator
  if near.closed then near.lower * b <= point && point <= near.upper * b
  else near.lower * b < point && point < near.upper * b

/-- The greatest power of ten that is at most the number. -/
def Neighbourhood.decade (near : Neighbourhood) : Int :=
  let whole := near.value / near.denominator
  if 0 < whole then (Nat.toDigits 10 whole).length - 1
  else
    let rec down : Nat -> Nat -> Int -> Int
      | 0, _, power => power
      | count + 1, value, power =>
          if near.denominator <= value then power else down count (10 * value) (power - 1)
    down 400 (10 * near.value) (-1)

/-- The nearest decimal with a given count of digits, if it rounds to the number. -/
def Neighbourhood.onGrid? (near : Neighbourhood) (count : Nat) : Option (Nat × Int) :=
  let power := near.decade - count + 1
  let (a, b) :=
    if 0 <= power then (near.value, near.denominator * Nat.pow 10 power.toNat)
    else (near.value * Nat.pow 10 (-power).toNat, near.denominator)
  let floor := a / b
  let rest := a % b
  let nearest := if 2 * rest > b || (2 * rest == b && floor % 2 == 1) then floor + 1 else floor
  let other := if nearest = floor then floor + 1 else floor
  if near.holds nearest power then some (nearest, power)
  else if near.holds other power then some (other, power)
  else none

/-- The digits of the shortest decimal and the power of ten that the last of them counts. -/
def shortest (significand : Nat) (exponent : Int) : Nat × Int :=
  let near := neighbourhood significand exponent
  match (List.range 17).findSome? fun count => near.onGrid? (count + 1) with
  | some found => found
  | none => (significand, 0)

/-- Digits without the zeros at their end, and the count of zeros. -/
def dropZeros (digits : Text) : Text × Nat :=
  let zeros := (digits.reverse.takeWhile (· == '0')).length
  (digits.take (digits.length - zeros), zeros)

/-- A text filled up with zeros at its end. -/
def padEnd (digits : Text) (count : Nat) : Text :=
  digits ++ List.replicate (count - digits.length) '0'

/-- The text of the decimal with the given digits, the first of which counts `10 ^ decade`. -/
def layOut (digits : Text) (decade : Int) : Text :=
  if decade < -4 || 16 <= decade then
    let mantissa := match digits with
      | first :: second :: rest => first :: '.' :: second :: rest
      | digits => digits
    let size := Nat.toDigits 10 decade.natAbs
    let size := if size.length < 2 then '0' :: size else size
    mantissa ++ 'e' :: (if decade < 0 then '-' else '+') :: size
  else if decade < 0 then
    '0' :: '.' :: (List.replicate (decade.natAbs - 1) '0' ++ digits)
  else
    let whole := padEnd (digits.take (decade.toNat + 1)) (decade.toNat + 1)
    let fraction := digits.drop (decade.toNat + 1)
    whole ++ '.' :: (if fraction.isEmpty then ['0'] else fraction)

/-- The text of a number. -/
def text : Binary -> Text
  | .notANumber => Text.ofString "nan"
  | .infinite negative => Text.ofString (if negative then "-inf" else "inf")
  | .finite negative significand exponent =>
      let size :=
        if significand = 0 then Text.ofString "0.0"
        else
          let (value, power) := shortest significand exponent
          let all := Nat.toDigits 10 value
          let (digits, _) := dropZeros all
          layOut digits (power + all.length - 1)
      if negative then '-' :: size else size

end Binary
end Switchboard
