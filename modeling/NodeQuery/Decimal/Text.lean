import NodeQuery.Decimal.Shortest

/-!
# Numbers as text

Floating-point numbers are written with the fewest digits that read back as the same number:
positionally between `0.0001` and `10 ^ 16`, with an exponent outside.
-/

namespace NodeQuery.Decimal

/-- How floating-point numbers are laid out. -/
structure Layout where
  /-- The exponent of the first digit from which on an exponent is written. -/
  scientificFrom : Int
  /-- The exponent of the first digit below which an exponent is written. -/
  scientificBelow : Int
  /-- What a whole number ends with. -/
  wholeEnd : String
  exponentMark : String
  nan : String
  infinity : String

/-- The layout of the numbers in printed values. -/
def valueLayout : Layout where
  scientificFrom := 16
  scientificBelow := -4
  wholeEnd := ".0"
  exponentMark := "e"
  nan := "NaN"
  infinity := "inf"

/-- The digits of a natural number in base ten. -/
def digitText (number : Nat) : String := String.ofList (Nat.toDigits 10 number)

/-- A numeral with a point where it belongs. -/
def Numeral.positional (numeral : Numeral) (layout : Layout) : String :=
  let digits := Nat.toDigits 10 numeral.coefficient
  if 0 ≤ numeral.exponent then
    String.ofList (digits ++ List.replicate numeral.exponent.toNat '0') ++ layout.wholeEnd
  else
    let places := (-numeral.exponent).toNat
    if places < digits.length then
      let whole := digits.length - places
      String.ofList (digits.take whole ++ '.' :: digits.drop whole)
    else
      String.ofList ('0' :: '.' :: (List.replicate (places - digits.length) '0' ++ digits))

/-- A numeral with its point behind the first digit and an exponent. -/
def Numeral.scientific (numeral : Numeral) (layout : Layout) : String :=
  let digits := Nat.toDigits 10 numeral.coefficient
  let exponent := numeral.exponent + (digits.length - 1 : Nat)
  let fraction := digits.tail
  String.ofList (digits.take 1 ++ if fraction.isEmpty then [] else '.' :: fraction) ++
    layout.exponentMark ++ toString exponent

/-- A double as text. -/
def floatText (layout : Layout) (number : Float) : String :=
  if number.isNaN then layout.nan
  else
    let bits := number.toBits.toNat
    let sign := if bits / Nat.pow 2 63 = 1 then "-" else ""
    if number.isInf then sign ++ layout.infinity
    else if bits % Nat.pow 2 63 = 0 then sign ++ "0" ++ layout.wholeEnd
    else
      let numeral := (Binary.ofBits (bits % Nat.pow 2 63)).shortest
      let first := numeral.exponent + ((Nat.toDigits 10 numeral.coefficient).length - 1 : Nat)
      if layout.scientificBelow ≤ first ∧ first < layout.scientificFrom then
        sign ++ numeral.positional layout
      else
        sign ++ numeral.scientific layout

/-- The double nearest to `coefficient · 10 ^ exponent`.  Numbers far outside the range of doubles
are settled by the exponent of their first digit. -/
def nearestFloat (coefficient : Nat) (exponent : Int) : Float :=
  let first := exponent + digitCount coefficient
  if coefficient = 0 ∨ first < -400 then 0.0
  else if 400 < first then 1.0 / 0.0
  else Float.ofScientific coefficient (exponent < 0) exponent.natAbs

/-- The number that a row of decimal digits denotes. -/
def digitValue (digits : List Char) : Nat :=
  digits.foldl (fun value digit => value * 10 + (digit.toNat - '0'.toNat)) 0

/-- The integer that a text of a sign (`-`, or `+` too if `plus` allows it) and decimal digits
denotes. -/
def integer? (plus : Bool) (chars : List Char) : Option Int :=
  let unsigned (digits : List Char) : Option Nat :=
    if digits.isEmpty ∨ ¬ digits.all Char.isDigit then none else some (digitValue digits)
  match chars with
  | '-' :: digits => (unsigned digits).map fun value => -(value : Int)
  | '+' :: digits => if plus then (unsigned digits).map Int.ofNat else none
  | digits => (unsigned digits).map Int.ofNat

/-- The double nearest to the number that a text denotes: a sign, decimal digits with or without a
point, and perhaps an exponent.  Other texts denote nothing. -/
def float? (text : List Char) : Option Float :=
  let (negative, unsigned) :=
    match text with
    | '-' :: rest => (true, rest)
    | '+' :: rest => (false, rest)
    | rest => (false, rest)
  let whole := unsigned.takeWhile Char.isDigit
  let behindWhole := unsigned.dropWhile Char.isDigit
  let (fraction, behindFraction) :=
    match behindWhole with
    | '.' :: rest => (rest.takeWhile Char.isDigit, rest.dropWhile Char.isDigit)
    | rest => ([], rest)
  let exponent :=
    match behindFraction with
    | [] => some 0
    | 'e' :: rest => integer? true rest
    | 'E' :: rest => integer? true rest
    | _ => none
  if whole.isEmpty && fraction.isEmpty then none
  else
    exponent.map fun exponent =>
      let number := nearestFloat (digitValue (whole ++ fraction)) (exponent - fraction.length)
      if negative then -number else number

end NodeQuery.Decimal
