/-
  Tariff.Decimal — decimals of 96 bits.

  A decimal is `±coefficient / 10^scale` with a coefficient below 2^96 and at most 28
  places. Order and equality of numbers go by `value`; `1.5` and `1.50` are two decimals
  of one value, told apart by their scale when they are written. A zero may carry a
  sign, left by a rounding to fewer places.
  - An operation forms its exact result and, when that needs more than 96 bits or 28
    places, gives up places from the end until it fits, rounding once with ties to even
    (`fit`). A result too large even without places is `none`.
  - A plain numeral may have underscores behind its first digit and more places than a
    decimal can hold: it is cut where the coefficient is full, and the next digit alone
    decides whether it is rounded up. A scientific numeral shifts the point of a plain one.
  - `text` writes every place, `canonicalText` none that is a zero at the end, and
    `centsText` exactly two, cutting off the others.
  - A binary64 number becomes a decimal of about fifteen digits: its halvings are turned
    into places as long as the digits fit 96 bits (`halve`), and the digits beyond 52 bits
    are rounded away. A whole number without halvings is taken exactly, up to 2^96 - 1.
  - A decimal becomes a binary64 number by its whole part and its fraction, each rounded,
    and a last rounding to its own places.
-/
import Tariff.Numeral
import Tariff.Binary64

namespace Tariff

structure Decimal where
  negative : Bool
  coefficient : Nat
  scale : Nat
  coefficient_lt : coefficient < twoTo 96 := by decide
  scale_le : scale ≤ 28 := by decide
  deriving DecidableEq, Repr

namespace Decimal

def maxCoefficient : Nat := twoTo 96 - 1

def maxScale : Nat := 28

def ofParts (negative : Bool) (coefficient scale : Nat) : Option Decimal :=
  if h : coefficient < twoTo 96 ∧ scale ≤ 28 then some ⟨negative, coefficient, scale, h.1, h.2⟩
  else none

def zero : Decimal := ⟨false, 0, 0, by decide, by decide⟩

instance : Inhabited Decimal := ⟨zero⟩

def ofInt (n : Int) : Option Decimal := ofParts (n < 0) n.natAbs 0

def ofNat (n : Nat) : Option Decimal := ofParts false n 0

def signed (d : Decimal) : Int := if d.negative then -(d.coefficient : Int) else d.coefficient

def value (d : Decimal) : Rat := mkRat d.signed (tenTo d.scale)

def isZero (d : Decimal) : Bool := d.coefficient == 0

instance : LE Decimal := ⟨fun a b => a.value ≤ b.value⟩
instance : LT Decimal := ⟨fun a b => a.value < b.value⟩

instance (a b : Decimal) : Decidable (a ≤ b) := inferInstanceAs (Decidable (a.value ≤ b.value))
instance (a b : Decimal) : Decidable (a < b) := inferInstanceAs (Decidable (a.value < b.value))

def same (a b : Decimal) : Bool := a.value == b.value

def clampZero (d : Decimal) : Decimal := if d < zero then zero else d

def stripZeros (coefficient : Nat) : Nat → Nat × Nat
  | 0 => (coefficient, 0)
  | scale + 1 =>
    if coefficient % 10 = 0 then stripZeros (coefficient / 10) scale
    else (coefficient, scale + 1)

theorem stripZeros_le (coefficient scale : Nat) :
    (stripZeros coefficient scale).1 ≤ coefficient ∧ (stripZeros coefficient scale).2 ≤ scale := by
  induction scale generalizing coefficient with
  | zero => simp [stripZeros]
  | succ scale ih =>
    unfold stripZeros
    split
    · have := ih (coefficient / 10)
      omega
    · simp

def normalize (d : Decimal) : Decimal :=
  let s := stripZeros d.coefficient d.scale
  have h := stripZeros_le d.coefficient d.scale
  ⟨d.negative, s.1, s.2, Nat.lt_of_le_of_lt h.1 d.coefficient_lt, Nat.le_trans h.2 d.scale_le⟩

/-! ## Arithmetic -/

/-- The decimal of a magnitude and a sign, if it is in range. A zero has no sign. -/
def ofMagnitude (negative : Bool) (coefficient scale : Nat) : Option Decimal :=
  ofParts (negative && coefficient != 0) coefficient scale

/-- `±n / 10^(places + dropped)` with `places` places or, if the coefficient is too large
    there, with as many of them as it can have. -/
def fitFrom (negative : Bool) (n : Nat) (dropped : Nat) : Nat → Option Decimal
  | 0 => ofMagnitude negative (halfEven n (tenTo dropped)) 0
  | places + 1 =>
    match ofMagnitude negative (halfEven n (tenTo dropped)) (places + 1) with
    | some d => some d
    | none => fitFrom negative n (dropped + 1) places

/-- The decimal nearest to `±n / 10^scale` with as many places as it can have, at most
    `scale` and at most 28. -/
def fit (negative : Bool) (n scale : Nat) : Option Decimal :=
  fitFrom negative n (scale - maxScale) (min scale maxScale)

/-- The coefficient that the number has with `scale` places, for a scale not below its own. -/
def rescaled (d : Decimal) (scale : Nat) : Int := d.signed * tenTo (scale - d.scale)

/-- The sum, with the places of the operand that has more of them. A zero operand leaves
    the other as it is; numbers that cancel out leave a zero without a sign. -/
def add (a b : Decimal) : Option Decimal :=
  if a.isZero then some b
  else if b.isZero then some a
  else
    let scale := max a.scale b.scale
    let sum := a.rescaled scale + b.rescaled scale
    fit (sum < 0) sum.natAbs scale

def sum (ds : List Decimal) : Option Decimal := ds.foldlM add zero

def mul (a b : Decimal) : Option Decimal :=
  if a.isZero || b.isZero then some zero
  else fit (a.negative != b.negative) (a.coefficient * b.coefficient) (a.scale + b.scale)

/-- One hundredth. It keeps its places when 100 divides the coefficient, and else takes as
    many more as the exact result has. -/
def hundredth (d : Decimal) : Option Decimal :=
  if d.isZero then some zero
  else if d.coefficient % 100 = 0 then ofParts d.negative (d.coefficient / 100) d.scale
  else if d.coefficient % 10 = 0 then fit d.negative (d.coefficient / 10) (d.scale + 1)
  else fit d.negative d.coefficient (d.scale + 2)

/-- The number rounded to cents, a half going away from zero. A number of two places or
    fewer stays as it is. -/
def roundToCents (d : Decimal) : Decimal :=
  if d.scale ≤ 2 then d
  else
    let cents := halfUp d.coefficient (tenTo (d.scale - 2))
    ⟨d.negative, cents, 2,
      Nat.lt_of_le_of_lt (halfUp_le d.coefficient (tenTo_pos _)) d.coefficient_lt, by decide⟩

/-! ## In writing -/

/-- The decimal next to a cut: one unit up if the first digit left out is 5 or more. A
    coefficient that overflows by it gives up its last place, if it has one. -/
def roundAtCut (coefficient scale : Nat) (next : Char) : Option Decimal :=
  if next ≠ '_' && 5 ≤ digitValue next then
    match ofParts false (coefficient + 1) scale with
    | some d => some d
    | none => if scale = 0 then none else ofParts false ((coefficient + 5) / 10) (scale - 1)
  else ofParts false coefficient scale

/-- A coefficient whose digits but the last leave a word of 64 bits room for one more, with
    a margin of 255. -/
def isNarrow (coefficient : Nat) : Bool := coefficient / 10 < twoTo 64 / 10 - 255

/-- Reads the digits of a plain numeral from left to right: `point` after the point,
    `seen` after the first digit, `coefficient` and `scale` what was read so far. An
    underscore is passed over, except right behind the last place of a narrow coefficient,
    where it stands for the digit 0. -/
def readDigits (point seen : Bool) (coefficient scale : Nat) : List Char → Option Decimal
  | [] => if seen then ofParts false coefficient scale else none
  | c :: cs =>
    if isDigit c || (c == '_' && seen) then
      let next := 10 * coefficient + digitValue c
      let full := point && maxScale ≤ scale
      if c = '_' && !(full && isNarrow coefficient) then readDigits point seen coefficient scale cs
      else if full || (point && maxCoefficient < next) then
        if cs.all fun d => isDigit d || d == '_' then roundAtCut coefficient scale c else none
      else if maxCoefficient < next then none
      else readDigits point true next (if point then scale + 1 else 0) cs
    else if c = '.' && !point then readDigits true seen coefficient scale cs
    else none

/-- A plain numeral: a sign or none, digits, at most one point. A zero has no sign. -/
def readPlain : List Char → Option Decimal
  | '-' :: cs => (readDigits false false 0 0 cs).map fun d => { d with negative := !d.isZero }
  | '+' :: cs => readDigits false false 0 0 cs
  | cs => readDigits false false 0 0 cs

/-- The decimal with its point moved `places` to the left. Places beyond the last one are
    rounded off, a half going away from zero. -/
def shiftLeft (d : Decimal) (places : Nat) : Option Decimal :=
  if maxScale < places then none
  else if d.scale + places ≤ maxScale then ofParts d.negative d.coefficient (d.scale + places)
  else ofParts d.negative (halfUp d.coefficient (tenTo (d.scale + places - maxScale))) maxScale

def shiftRight (d : Decimal) (places : Nat) : Option Decimal :=
  if places ≤ d.scale then ofParts d.negative d.coefficient (d.scale - places)
  else if maxScale < places then none
  else if d.isZero then some zero
  else (fit d.negative (d.coefficient * tenTo places) d.scale).map normalize

def readScientific (cs : List Char) : Option Decimal := do
  let base ← readPlain (cs.takeWhile fun c => c != 'e' && c != 'E')
  match cs.dropWhile fun c => c != 'e' && c != 'E' with
  | [] => none
  | _ :: '-' :: ds =>
    let places ← readNatBelow (twoTo 32) ds
    base.shiftLeft places
  | _ :: ds =>
    let places ← readNatBelow (twoTo 32) ds
    base.shiftRight places

def ofText (s : String) : Option Decimal := readPlain s.toList <|> readScientific s.toList

def placed (coefficient scale : Nat) : List Char × List Char :=
  let ds := digitsOf coefficient
  let ds := List.replicate (scale + 1 - ds.length) '0' ++ ds
  (ds.take (ds.length - scale), ds.drop (ds.length - scale))

def written (negative : Bool) (coefficient scale : Nat) : String :=
  let (whole, fraction) := placed coefficient scale
  let digits := if fraction.isEmpty then whole else whole ++ '.' :: fraction
  String.ofList (if negative then '-' :: digits else digits)

def text (d : Decimal) : String := written d.negative d.coefficient d.scale

def canonicalText (d : Decimal) : String :=
  let n := d.normalize
  written (n.negative && !n.isZero) n.coefficient n.scale

def centsText (d : Decimal) : String :=
  if d.scale ≤ 2 then written d.negative (d.coefficient * tenTo (2 - d.scale)) 2
  else written d.negative (d.coefficient / tenTo (d.scale - 2)) 2

/-! ## Binary64 numbers -/

/-- Takes `n` halvings out of `m · 2^-n · 10^e`. A halving is exact while `m` is even or has
    room for another factor of five, and else cuts the last bit. -/
def halve : Nat → Nat → Int → Nat × Int
  | 0, m, e => (m, e)
  | n + 1, m, e =>
    if m % 2 = 0 then halve n (m / 2) (e + 1)
    else if m * 5 < twoTo 96 then halve n (m * 5) e
    else halve n (m / 2) (e + 1)

/-- Divides by ten `n` times, rounding half up at each step. The last digit is cut off. -/
def coarsen : Nat → Nat → Nat
  | 0, m => m
  | n + 1, m => if m < 10 then 0 else coarsen n (halfUp m 10)

def settle (m : Nat) : Nat → Nat × Nat
  | 0 => (m, 0)
  | scale + 1 => if twoTo 52 ≤ m then settle (halfUp m 10) scale else (m, scale + 1)

/-- The decimal of `m / 10^places`, rounded to what 52 bits and 28 places can tell. -/
def ofScaled (negative : Bool) (m places : Nat) : Option Decimal :=
  let m := coarsen (places - maxScale) m
  if m = 0 then some zero
  else
    let (m, scale) := settle m (min places maxScale)
    (ofParts negative m scale).map normalize

/-- The decimal that a binary64 number stands for. A whole number without halvings is exact,
    and 2^96 is the least that has no decimal. -/
def ofBinary64 (x : Binary64) : Option Decimal :=
  if x.significand = 0 then some zero
  else if 0 ≤ x.exponent then ofParts x.negative (x.significand * twoTo x.exponent.toNat) 0
  else
    let (m, e) := halve (-x.exponent).toNat x.significand x.exponent
    ofScaled x.negative m (-e).toNat

/-- The magnitude of a decimal with places: the sum of its whole part and its fraction,
    rounded to the places again. -/
def magnitude64 (coefficient scale : Nat) : Option Binary64 := do
  let whole ← Binary64.ofNat (coefficient / tenTo scale)
  let part ← Binary64.ofNat (coefficient % tenTo scale)
  if part.significand = 0 then some whole
  else
    let unit ← Binary64.ofNat (tenTo scale)
    let fraction ← Binary64.nearestTo (part.value / unit.value)
    let sum ← whole.add fraction
    let scaled ← Binary64.nearestTo (sum.value * unit.value)
    let rounded ← Binary64.ofNat (halfUp scaled.fraction.1 scaled.fraction.2)
    Binary64.nearestTo (rounded.value / unit.value)

def toBinary64 (d : Decimal) : Option Binary64 :=
  if d.scale = 0 then Binary64.nearest (d.negative && !d.isZero) d.coefficient 1
  else (magnitude64 d.coefficient d.scale).map fun x => { x with negative := d.negative }

end Decimal

end Tariff
