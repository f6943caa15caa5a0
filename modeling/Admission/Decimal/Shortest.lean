/-!
# Shortest decimals

A binary floating-point number is written with the fewest decimal digits that read back to it,
and of two such decimals with the nearer one. The number is decoded into a natural times a power
of two, and decimals are compared with the ends of the interval of reals that round to it, so
that all arithmetic is exact.
-/

namespace Admission.Decimal

/-- A decimal numeral: digits times a power of ten. -/
structure Numeral where
  /-- The digits, read as a number. -/
  digits : Nat
  /-- The power of ten. -/
  exponent : Int
deriving DecidableEq, Repr

/-- A positive number of double precision: a significand times a power of two. -/
structure Binary where
  significand : Nat
  /-- The power of two. -/
  exponent : Int
  /-- Whether the neighbour below is only half as far away as the one above. -/
  isNarrowBelow : Bool
deriving Repr

/-- Decodes the bits of a finite number, its sign aside. -/
def Binary.ofBits (bits : UInt64) : Binary :=
  let exponent := ((bits >>> 52) &&& 0x7ff).toNat
  let fraction := (bits &&& 0xfffffffffffff).toNat
  if exponent = 0 then
    { significand := fraction, exponent := -1074, isNarrowBelow := false }
  else
    { significand := Nat.pow 2 52 + fraction, exponent := (exponent : Int) - 1075
      isNarrowBelow := fraction == 0 && exponent != 1 }

/-- Compares a number times a power of ten with another times a power of two. -/
def compareScaled (left : Nat) (ten : Int) (right : Nat) (two : Int) : Ordering :=
  compare (left * Nat.pow 10 ten.toNat * Nat.pow 2 (-two).toNat)
    (right * Nat.pow 2 two.toNat * Nat.pow 10 (-ten).toNat)

/-- Whether a decimal lies among the reals that round to a binary number. -/
def Binary.readsBack (value : Binary) (decimal : Numeral) : Bool :=
  let lower := 4 * value.significand - (if value.isNarrowBelow then 1 else 2)
  let upper := 4 * value.significand + 2
  let endsCount := value.significand % 2 == 0
  let toLower := compareScaled decimal.digits decimal.exponent lower (value.exponent - 2)
  let toUpper := compareScaled decimal.digits decimal.exponent upper (value.exponent - 2)
  (toLower == .gt || (endsCount && toLower == .eq)) &&
    (toUpper == .lt || (endsCount && toUpper == .eq))

/-- The whole number of steps of size `10 ^ ten` that fit into a binary number. -/
def Binary.steps (value : Binary) (ten : Int) : Nat :=
  (value.significand * Nat.pow 2 value.exponent.toNat * Nat.pow 10 (-ten).toNat) /
    (Nat.pow 2 (-value.exponent).toNat * Nat.pow 10 ten.toNat)

/-- The nearest decimal with a given power of ten that reads back; a tie goes up. -/
def Binary.onGrid? (value : Binary) (ten : Int) : Option Numeral :=
  let below : Numeral := ⟨value.steps ten, ten⟩
  let above : Numeral := ⟨below.digits + 1, ten⟩
  match value.readsBack below, value.readsBack above with
  | true, true =>
      let middle := compareScaled (below.digits + above.digits) ten value.significand
        (value.exponent + 1)
      if middle == .gt then some below else some above
  | true, false => some below
  | false, true => some above
  | false, false => none

/-- The least power of ten above a positive number, found from an estimate that is not above
it. -/
def Binary.scale (value : Binary) : Int :=
  let bitLength := (value.significand.log2 : Int) + value.exponent
  let estimate := (bitLength * 30103).fdiv 100000
  ((List.range 4).map fun (step : Nat) => estimate + (step : Int)).find?
    (fun ten => compareScaled 1 ten value.significand value.exponent == .gt) |>.getD (estimate + 4)

/-- The shortest decimal that reads back to a positive number; the exact value if no decimal of
seventeen digits does. -/
def Binary.shortest (value : Binary) : Numeral :=
  let scale := value.scale
  ((List.range 17).findSome? fun (count : Nat) => value.onGrid? (scale - 1 - (count : Int))).getD
    ⟨value.significand * Nat.pow 2 value.exponent.toNat * Nat.pow 5 (-value.exponent).toNat,
      min value.exponent 0⟩

/-- A decimal in positional notation, padded with zeros and never with an exponent. -/
def positional (decimal : Numeral) : String :=
  let digits := Nat.toDigits 10 decimal.digits
  if 0 ≤ decimal.exponent then
    String.ofList (digits ++ List.replicate decimal.exponent.toNat '0')
  else
    let places := (-decimal.exponent).toNat
    let padded := List.replicate (places + 1 - digits.length) '0' ++ digits
    let whole := padded.take (padded.length - places)
    let fraction := padded.drop (padded.length - places)
    let kept := (fraction.reverse.dropWhile (· == '0')).reverse
    if kept.isEmpty then String.ofList whole
    else String.ofList (whole ++ '.' :: kept)

/-- A number in positional notation with the fewest digits that read back. -/
def text (value : Float) : String :=
  let bits := value.toBits
  let sign := if bits >>> 63 == 0 then "" else "-"
  if value.isNaN then "NaN"
  else if value.isInf then sign ++ "inf"
  else if bits <<< 1 == 0 then sign ++ "0"
  else sign ++ positional (Binary.ofBits bits).shortest

end Admission.Decimal
