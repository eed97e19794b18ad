/-!
# The shortest decimal of a floating-point number

A finite double is `mantissa · 2 ^ exponent`.  The reals that round to it form an interval around
it, whose ends belong to it exactly if the mantissa is even.  Of the decimal grids with one digit,
two digits and so on, the first that has a point in the interval gives the shortest decimal; of
two points on that grid the nearer one is chosen, and the greater one if both are equally near.
-/

namespace NodeQuery.Decimal

/-- A positive double as `mantissa · 2 ^ exponent`. -/
structure Binary where
  mantissa : Nat
  exponent : Int
  /-- Whether the next smaller double is only half as far away as the next greater one. -/
  narrowBelow : Bool
  deriving Repr, DecidableEq

/-- The magnitude of a finite double other than zero, from its bit pattern. -/
def Binary.ofBits (bits : Nat) : Binary :=
  let fraction : Nat := bits % Nat.pow 2 52
  let exponent : Nat := bits / Nat.pow 2 52 % Nat.pow 2 11
  if exponent = 0 then
    ⟨fraction, -1074, false⟩
  else
    ⟨Nat.pow 2 52 + fraction, (exponent : Int) - 1075, fraction = 0 && exponent ≠ 1⟩

/-- A number `coefficient · 10 ^ exponent`. -/
structure Numeral where
  coefficient : Nat
  exponent : Int
  deriving Repr, DecidableEq

/-- A fraction of two natural numbers, scaled by a power of ten. -/
structure Ratio where
  num : Nat
  den : Nat
  deriving Repr, DecidableEq

/-- A quarter of the unit in the last place of a binary number, as a fraction. -/
def Binary.quarter (binary : Binary) : Ratio :=
  if 2 ≤ binary.exponent then ⟨Nat.pow 2 (binary.exponent - 2).toNat, 1⟩
  else ⟨1, Nat.pow 2 (2 - binary.exponent).toNat⟩

/-- A fraction times a power of ten. -/
def Ratio.scale (ratio : Ratio) (power : Int) : Ratio :=
  if 0 ≤ power then ⟨ratio.num * Nat.pow 10 power.toNat, ratio.den⟩
  else ⟨ratio.num, ratio.den * Nat.pow 10 (-power).toNat⟩

/-- The number of digits of a natural number in base ten; zero has none. -/
def digitCount (number : Nat) : Nat :=
  if number = 0 then 0 else (Nat.toDigits 10 number).length

/-- How many powers of ten a fraction of `num` and `den` is below one: the least `power` with
`den ≤ num · 10 ^ power`, as far as `fuel` allows. -/
def leadingZeros (den : Nat) : (fuel : Nat) → (num : Nat) → Nat
  | 0, _ => 0
  | fuel + 1, num => if den ≤ num then 0 else leadingZeros den fuel (num * 10) + 1

/-- The exponent of the first digit of a positive fraction: the `power` with
`10 ^ power ≤ num / den < 10 ^ (power + 1)`. -/
def magnitude (ratio : Ratio) : Int :=
  if ratio.den ≤ ratio.num then (digitCount (ratio.num / ratio.den) : Int) - 1
  else -(leadingZeros ratio.den 400 ratio.num : Int)

/-- The point nearest to a binary number on the grid of multiples of `10 ^ power`, if that grid
meets the interval of the reals that round to the number. -/
def Binary.nearestOn? (binary : Binary) (power : Int) : Option Nat :=
  let unit := binary.quarter.scale (-power)
  let centre := 4 * binary.mantissa * unit.num
  let low := (4 * binary.mantissa - if binary.narrowBelow then 1 else 2) * unit.num
  let high := (4 * binary.mantissa + 2) * unit.num
  let closed := binary.mantissa % 2 = 0
  let below := centre / unit.den
  let above := below + 1
  let belowFits := low < below * unit.den ∨ (closed ∧ low = below * unit.den)
  let aboveFits := above * unit.den < high ∨ (closed ∧ above * unit.den = high)
  if belowFits ∧ aboveFits then
    some (if centre - below * unit.den < above * unit.den - centre then below else above)
  else if belowFits then some below
  else if aboveFits then some above
  else none

/-- Removes zeros from the end of a coefficient. -/
def Numeral.trim : (fuel : Nat) → Numeral → Numeral
  | 0, numeral => numeral
  | fuel + 1, numeral =>
      if numeral.coefficient % 10 = 0 then
        trim fuel ⟨numeral.coefficient / 10, numeral.exponent + 1⟩
      else numeral

/-- The nearest point of the first grid, from that with `digits` digits on, that has a point in
the interval of the number; seventeen digits always suffice. -/
def Binary.shortestFrom (binary : Binary) (magnitude : Int) :
    (remaining : Nat) → (digits : Nat) → Numeral
  | 0, digits => ⟨0, magnitude + 1 - digits⟩
  | remaining + 1, digits =>
      let power := magnitude + 1 - digits
      match binary.nearestOn? power with
      | some coefficient => ⟨coefficient, power⟩
      | none => binary.shortestFrom magnitude remaining (digits + 1)

/-- The shortest decimal that reads back as the given positive double, without zeros at the end. -/
def Binary.shortest (binary : Binary) : Numeral :=
  let unit := binary.quarter
  let magnitude := magnitude ⟨4 * binary.mantissa * unit.num, unit.den⟩
  (binary.shortestFrom magnitude 17 1).trim 20

end NodeQuery.Decimal
