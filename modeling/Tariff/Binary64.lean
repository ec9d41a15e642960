/-
  Tariff.Binary64 — finite binary64 numbers, exactly.

  A number is `±significand · 2^exponent`. Every operation forms the exact rational
  result and rounds it once, to nearest with ties to the even significand (`nearest`);
  a result beyond the largest finite number is `none`. Zero keeps a sign, which shows
  when the number is written and nowhere else.

  `shortest` picks the fewest digits that read back as the number, and of two such
  rows of digits the nearer one. `text` places the point for numbers of moderate size
  and writes an exponent for the others; of two rows that are equally near it takes the
  even one. `plainText` always places the point, and takes the larger one.
-/
import Tariff.Numeral

namespace Tariff

structure Binary64 where
  negative : Bool
  significand : Nat
  exponent : Int
  deriving DecidableEq, Repr

namespace Binary64

def minExponent : Int := -1074

def maxExponent : Int := 971

def zero : Binary64 := ⟨false, 0, minExponent⟩

instance : Inhabited Binary64 := ⟨zero⟩

def fraction (x : Binary64) : Nat × Nat :=
  (x.significand * twoTo x.exponent.toNat, twoTo (-x.exponent).toNat)

def value (x : Binary64) : Rat :=
  let (num, den) := x.fraction
  mkRat (if x.negative then -(num : Int) else num) den

/-- The exponent of the grid that `num / den` is rounded on: the least one, not below
    `minExponent`, on which the number needs at most 53 bits in front of the point. -/
def gridExponent (num den : Nat) : Int :=
  let e := max ((Nat.log2 num : Int) - Nat.log2 den - 53) minExponent
  if num * twoTo (-e).toNat < twoTo 53 * (den * twoTo e.toNat) then e else e + 1

def nearest (negative : Bool) (num den : Nat) : Option Binary64 :=
  if num = 0 then some ⟨negative, 0, minExponent⟩
  else
    let e := gridExponent num den
    let m := halfEven (num * twoTo (-e).toNat) (den * twoTo e.toNat)
    let x : Binary64 := if m = twoTo 53 then ⟨negative, twoTo 52, e + 1⟩ else ⟨negative, m, e⟩
    if x.exponent ≤ maxExponent then some x else none

/-- The binary64 number nearest to a rational; a zero is positive. -/
def nearestTo (q : Rat) : Option Binary64 := nearest (q.num < 0) q.num.natAbs q.den

/-- The binary64 number nearest to a written one. Numbers from `10^310` on are too large
    and numbers below `10^-330` round to zero, so neither needs its power of ten. -/
def ofNumeral (n : Numeral) : Option Binary64 :=
  let point : Int := (digitsOf n.digits).length + n.exponent
  if n.digits = 0 || point < -330 then some ⟨n.negative, 0, minExponent⟩
  else if 310 < point then none
  else nearest n.negative (n.digits * tenTo n.exponent.toNat) (tenTo (-n.exponent).toNat)

def ofChars (cs : List Char) : Option Binary64 := Numeral.ofChars cs >>= ofNumeral

def ofNat (n : Nat) : Option Binary64 := nearest false n 1

def ofInt (n : Int) : Option Binary64 := nearest (n < 0) n.natAbs 1

def add (x y : Binary64) : Option Binary64 := nearestTo (x.value + y.value)

instance : LE Binary64 := ⟨fun x y => x.value ≤ y.value⟩
instance : LT Binary64 := ⟨fun x y => x.value < y.value⟩

/-- Equality as numbers: the sign of a zero does not count. -/
def same (x y : Binary64) : Bool := x.value == y.value

instance (x y : Binary64) : Decidable (x ≤ y) := inferInstanceAs (Decidable (x.value ≤ y.value))
instance (x y : Binary64) : Decidable (x < y) := inferInstanceAs (Decidable (x.value < y.value))

/-! ## In decimal -/

def exactDigits (x : Binary64) : Nat × Int :=
  if 0 ≤ x.exponent then (x.significand * twoTo x.exponent.toNat, 0)
  else (x.significand * fiveTo (-x.exponent).toNat, x.exponent)

def readsBack (x : Binary64) (digits : Nat) (exponent : Int) : Bool :=
  ofNumeral ⟨x.negative, digits, exponent⟩ == some x

/-- The two neighbours of the number on the grid with `drop` digits fewer than the exact
    ones, first the one that `nearest` rounds to. -/
def neighbours (nearest : Nat → Nat → Nat) (digits : Nat) (exponent : Int) (drop : Nat) : List (Nat × Int) :=
  let low := digits / tenTo drop
  let near := nearest digits (tenTo drop)
  let far := if near = low then low + 1 else low
  [(near, exponent + drop), (far, exponent + drop)]

/-- The digits and the power of ten that `x` is written with, a tie going as `nearest`
    rounds a half. The exact digits are among the candidates, last. -/
def shortest (nearest : Nat → Nat → Nat) (x : Binary64) : Nat × Int :=
  let (digits, exponent) := x.exactDigits
  let length := (digitsOf digits).length
  let candidates := (List.range 17).flatMap fun k => neighbours nearest digits exponent (length - (k + 1))
  (candidates.find? fun (d, e) => x.readsBack d e).getD (digits, exponent)

def dropZeros (ds : List Char) : List Char × Nat :=
  let kept := (ds.reverse.dropWhile (· == '0')).reverse
  (kept, ds.length - kept.length)

/-- The significant digits and the power of ten of the last one. Zero has the digit `0`. -/
def significantDigits (nearest : Nat → Nat → Nat) (x : Binary64) : List Char × Int :=
  if x.significand = 0 then (['0'], 0)
  else
    let (digits, exponent) := x.shortest nearest
    let (ds, zeros) := dropZeros (digitsOf digits)
    (ds, exponent + zeros)

def placePoint (ds : List Char) (exponent : Int) : List Char × List Char :=
  let places := (-exponent).toNat
  if 0 ≤ exponent then (ds ++ List.replicate exponent.toNat '0', [])
  else if places < ds.length then (ds.take (ds.length - places), ds.drop (ds.length - places))
  else (['0'], List.replicate (places - ds.length) '0' ++ ds)

def signed (negative : Bool) (cs : List Char) : String := String.ofList (if negative then '-' :: cs else cs)

/-- The number without an exponent, and without a point if it is whole. -/
def plainText (x : Binary64) : String :=
  let (ds, exponent) := x.significantDigits halfUp
  let (whole, fraction) := placePoint ds exponent
  signed x.negative (if fraction.isEmpty then whole else whole ++ '.' :: fraction)

/-- Decimal notation with a digit on both sides of the point when the first digit counts
    between 10^-5 and 10^15; else one digit, the others behind a point, and a signed
    exponent. -/
def text (x : Binary64) : String :=
  let (ds, exponent) := x.significantDigits halfEven
  let first := exponent + (ds.length : Int) - 1
  if -5 ≤ first && first ≤ 15 then
    let (whole, fraction) := placePoint ds exponent
    signed x.negative (whole ++ '.' :: (if fraction.isEmpty then ['0'] else fraction))
  else
    let mantissa := match ds with
      | [] => []
      | [d] => [d]
      | d :: rest => d :: '.' :: rest
    let mark := if first < 0 then ['e', '-'] else ['e', '+']
    signed x.negative (mantissa ++ mark ++ digitsOf first.natAbs)

end Binary64

end Tariff
