/-! # Finite binary floating-point numbers

Numbers of the IEEE 754 format binary64 as a sign, a whole significand and a power
of two, in the one form that the format has for each of them. Reading a decimal
rounds to nearest with ties to even, once (`ofDecimal`) or after each step of a
computation with numbers of the format (`ofScaled`); writing gives the fewest digits
that read back, and of those the nearest to the number. All arithmetic is exact.
-/
namespace AtlasManifests

/-- The significands and powers of two that the format has. -/
def Binary64.Canonical (significand : Nat) (exponent : Int) : Prop :=
  significand < Nat.pow 2 53 ∧ -1074 ≤ exponent ∧ exponent ≤ 971 ∧
    (exponent = -1074 ∨ Nat.pow 2 52 ≤ significand)

instance (significand : Nat) (exponent : Int) :
    Decidable (Binary64.Canonical significand exponent) := by
  unfold Binary64.Canonical; infer_instance

/-- A finite number of the format: the significand times two to the exponent, with
a sign that zero has too. -/
structure Binary64 where
  negative : Bool
  significand : Nat
  exponent : Int
  canonical : Binary64.Canonical significand exponent
  deriving DecidableEq

namespace Binary64

/-- Zero with a sign. -/
def zero (negative : Bool) : Binary64 := ⟨negative, 0, -1074, by decide⟩

instance : Inhabited Binary64 := ⟨zero false⟩

/-- The quotient rounded to the nearest whole number, a half to the even one. -/
def roundEven (num den : Nat) : Nat :=
  let q := num / den
  let r := num % den
  if den < 2 * r ∨ (den = 2 * r ∧ q % 2 = 1) then q + 1 else q

/-- A fraction divided by a power of a base, as a fraction. -/
def dividedBy (base : Nat) (exponent : Int) (num den : Nat) : Nat × Nat :=
  if 0 ≤ exponent then (num, den * Nat.pow base exponent.toNat)
  else (num * Nat.pow base (-exponent).toNat, den)

/-- A fraction divided by a power of two, as a fraction. -/
def scaleDown (num den : Nat) (exponent : Int) : Nat × Nat := dividedBy 2 exponent num den

/-- The power of two of the format's numbers around a positive fraction. -/
def exponentOf (num den : Nat) : Int :=
  let guess : Int := (num.log2 : Int) - den.log2 - 52
  let (n, d) := scaleDown num den guess
  max (-1074) (if n < d * Nat.pow 2 52 then guess - 1 else guess)

/-- The number of the format nearest to a fraction, if the fraction is not beyond
all of them. -/
def ofFraction (negative : Bool) (num den : Nat) : Option Binary64 :=
  if num = 0 then some (zero negative)
  else
    let exponent := exponentOf num den
    let (n, d) := scaleDown num den exponent
    let significand := roundEven n d
    let (significand, exponent) :=
      if significand = Nat.pow 2 53 then (Nat.pow 2 52, exponent + 1) else (significand, exponent)
    if h : Canonical significand exponent then some ⟨negative, significand, exponent, h⟩ else none

/-- The decimal digits of a number. -/
def digits (n : Nat) : List Char := Nat.toDigits 10 n

/-- A decimal as a fraction. -/
def decimalFraction (mantissa : Nat) (power : Int) : Nat × Nat :=
  dividedBy 10 (-power) mantissa 1

/-- The number of the format nearest to a decimal, digits times ten to a power.
Decimals far outside the range of the format are told by their size alone. -/
def ofDecimal (negative : Bool) (mantissa : Nat) (power : Int) : Option Binary64 :=
  let magnitude := power + (digits mantissa).length
  if mantissa = 0 ∨ magnitude < -330 then some (zero negative)
  else if 320 < magnitude then none
  else
    let (num, den) := decimalFraction mantissa power
    ofFraction negative num den

/-! ## Rounding after each step -/

/-- The size of a number as a fraction. -/
def fraction (x : Binary64) : Nat × Nat := scaleDown x.significand 1 (-x.exponent)

/-- The product of two numbers, if it is not beyond all numbers. -/
def product (x y : Binary64) : Option Binary64 :=
  let (xn, xd) := x.fraction
  let (yn, yd) := y.fraction
  ofFraction (x.negative != y.negative) (xn * yn) (xd * yd)

/-- The quotient of two numbers, of which the second one is not zero. -/
def quotient (x y : Binary64) : Option Binary64 :=
  let (xn, xd) := x.fraction
  let (yn, yd) := y.fraction
  ofFraction (x.negative != y.negative) (xn * yd) (xd * yn)

/-- A number times a power of ten. The powers that are numbers of the format themselves
go up to the one with 308 zeros, so a smaller fraction takes several divisions. -/
def timesPowerOfTen (x : Binary64) (power : Int) : Option Binary64 :=
  if x.significand = 0 then some x
  else if 308 < power then none
  else if 0 ≤ power then (ofDecimal false 1 power).bind x.product
  else if -308 ≤ power then (ofDecimal false 1 (-power)).bind x.quotient
  else ((ofDecimal false 1 308).bind x.quotient).bind fun y => timesPowerOfTen y (power + 308)
termination_by (-power).toNat

/-- Digits times ten to a power, computed with numbers of the format: the digits are
rounded, the power of ten is, and then their product or quotient. -/
def ofScaled (negative : Bool) (mantissa : Nat) (power : Int) : Option Binary64 :=
  (ofFraction negative mantissa 1).bind (·.timesPowerOfTen power)

/-! ## Whole numbers -/

/-- The whole number nearest to a number, a half away from zero. -/
def round (x : Binary64) : Int :=
  let size : Nat :=
    if 0 ≤ x.exponent then x.significand * Nat.pow 2 x.exponent.toNat
    else (2 * x.significand + Nat.pow 2 (-x.exponent).toNat) / Nat.pow 2 ((-x.exponent).toNat + 1)
  if x.negative then -(size : Int) else size

/-! ## The fewest digits -/

/-- The power of ten just below a positive fraction. -/
def powerOfTen (num den : Nat) : Int :=
  if den ≤ num then ((digits (num / den)).length : Int) - 1
  else -((digits ((den + num - 1) / num - 1)).length : Int)

/-- The size of a number as a fraction over four, so that the ends of the interval
of reals that round to it are fractions over four too. -/
def quarters (x : Binary64) : Nat × Nat :=
  scaleDown (4 * x.significand) 4 (-x.exponent)

/-- Whether a positive fraction rounds to the number: it lies between the midpoints
to the two neighbours, and on one of them only if the significand is even. -/
def roundsTo (x : Binary64) (num den : Nat) : Bool :=
  let below := if x.significand = Nat.pow 2 52 ∧ -1074 < x.exponent then 1 else 2
  let (n, d) := scaleDown (4 * num) den x.exponent
  let low := (4 * x.significand - below) * d
  let high := (4 * x.significand + 2) * d
  if x.significand % 2 = 0 then low ≤ n && n ≤ high else low < n && n < high

/-- The decimal with the given last place that rounds to the number and is nearest
to it, if there is one; of two equally near ones the one with an even last digit. -/
def onGrid (x : Binary64) (power : Int) : Option Nat :=
  let (num, den) := quarters x
  let (num, den) := dividedBy 10 power num den
  let low := num / den
  let hit (mantissa : Nat) : Bool :=
    let (n, d) := decimalFraction mantissa power
    mantissa ≠ 0 && roundsTo x n d
  let nearest := roundEven num den
  let other := if nearest = low then low + 1 else low
  if hit nearest then some nearest else if hit other then some other else none

/-- The first of the powers on whose grid there is a decimal for the number. -/
def firstGrid (x : Binary64) (top : Int) : Nat → Nat → Nat × Int
  | 0, _ => (x.significand, x.exponent)
  | tries + 1, below =>
    match onGrid x (top - below) with
    | some mantissa => (mantissa, top - below)
    | none => firstGrid x top tries (below + 1)

/-- A decimal without zeros at its end. -/
def stripZeros : Nat → Nat → Int → Nat × Int
  | 0, mantissa, power => (mantissa, power)
  | tries + 1, mantissa, power =>
    if mantissa % 10 = 0 ∧ mantissa ≠ 0 then stripZeros tries (mantissa / 10) (power + 1)
    else (mantissa, power)

/-- The decimal with the fewest digits that rounds to the number, as digits and a
power of ten. -/
def shortest (x : Binary64) : Nat × Int :=
  if x.significand = 0 then (0, 0)
  else
    let (num, den) := quarters x
    let (mantissa, power) := firstGrid x (powerOfTen num den) 17 0
    stripZeros 20 mantissa power

/-- The text of a number: positional from 1e-5 to below 1e16, with a point in any
case, and otherwise one digit, the others after a point, and the power of ten. -/
def text (x : Binary64) : String :=
  let sign := if x.negative then ['-'] else []
  let (mantissa, power) := x.shortest
  let ds := digits mantissa
  let point : Int := ds.length + power
  let body :=
    if mantissa = 0 then ['0', '.', '0']
    else if 0 ≤ power ∧ point ≤ 16 then ds ++ List.replicate power.toNat '0' ++ ['.', '0']
    else if 0 < point ∧ point ≤ 16 then ds.take point.toNat ++ '.' :: ds.drop point.toNat
    else if -5 < point ∧ point ≤ 0 then
      ['0', '.'] ++ List.replicate (-point).toNat '0' ++ ds
    else
      let rest := ds.drop 1
      ds.take 1 ++ (if rest.isEmpty then [] else '.' :: rest) ++
        'e' :: (toString (point - 1)).toList
  String.ofList (sign ++ body)

end Binary64

end AtlasManifests
