/-
  Tariff.Numeral — powers, rounded quotients, and numbers as they are written in decimal.

  `Numeral.Parts` takes a text apart into sign, whole digits, fraction digits and
  exponent, without deciding which of them may be missing: the readers that use it
  differ exactly there. A `Numeral` is what the parts denote, `±digits · 10^exponent`.
-/

namespace Tariff

/-! ## Powers and quotients -/

def twoTo (n : Nat) : Nat := Nat.pow 2 n

def fiveTo (n : Nat) : Nat := Nat.pow 5 n

def tenTo (n : Nat) : Nat := Nat.pow 10 n

theorem tenTo_pos (n : Nat) : 0 < tenTo n := Nat.pow_pos (by decide)

/-- `num / den` rounded to nearest, a half going to the even neighbour. -/
def halfEven (num den : Nat) : Nat :=
  let q := num / den
  let r := num % den
  if 2 * r < den then q
  else if den < 2 * r then q + 1
  else if q % 2 = 0 then q
  else q + 1

/-- `num / den` rounded to nearest, a half going up. -/
def halfUp (num den : Nat) : Nat := (2 * num + den) / (2 * den)

theorem halfUp_le (num : Nat) {den : Nat} (h : 0 < den) : halfUp num den ≤ num := by
  unfold halfUp
  refine Nat.le_of_lt_succ ((Nat.div_lt_iff_lt_mul (by omega)).2 ?_)
  have : num * 1 ≤ num * den := Nat.mul_le_mul_left num h
  calc 2 * num + den < 2 * (num * den) + 2 * den := by omega
    _ = (num + 1) * (2 * den) := by rw [Nat.add_mul, Nat.mul_left_comm, Nat.one_mul]

/-! ## Digits -/

def isDigit (c : Char) : Bool := '0' ≤ c && c ≤ '9'

def digitValue (c : Char) : Nat := c.toNat - '0'.toNat

def digitsValue (ds : List Char) : Nat := ds.foldl (fun n d => 10 * n + digitValue d) 0

def digitsOf (n : Nat) : List Char := Nat.toDigits 10 n

/-- A whole number without sign: one or more digits, with or without a `+` in front. -/
def readNat (cs : List Char) : Option Nat :=
  let ds := match cs with
    | '+' :: ds => ds
    | ds => ds
  if !ds.isEmpty && ds.all isDigit then some (digitsValue ds) else none

def readNatBelow (bound : Nat) (cs : List Char) : Option Nat := (readNat cs).filter (· < bound)

/-- `±digits · 10^exponent`. -/
structure Numeral where
  negative : Bool
  digits : Nat
  exponent : Int
  deriving DecidableEq, Repr

namespace Numeral

/-- A written number taken apart. `none` is a part that is not there, `some []` one that
    is announced by its mark and has no digits. -/
structure Parts where
  sign : Option Char
  whole : List Char
  fraction : Option (List Char)
  /-- The sign and the digits behind the exponent mark. -/
  exponent : Option (Option Char × List Char)
  deriving DecidableEq, Repr

def isSign (c : Char) : Bool := c == '+' || c == '-'

def takeSign : List Char → Option Char × List Char
  | c :: cs => if isSign c then (some c, cs) else (none, c :: cs)
  | [] => (none, [])

def takeFraction : List Char → Option (List Char) × List Char
  | '.' :: cs => (some (cs.takeWhile isDigit), cs.dropWhile isDigit)
  | cs => (none, cs)

/-- The exponent, which ends the number; `none` when something else stands here. -/
def takeExponent : List Char → Option (Option (Option Char × List Char))
  | [] => some none
  | c :: cs =>
    if c == 'e' || c == 'E' then
      let (sign, ds) := takeSign cs
      if ds.all isDigit then some (some (sign, ds)) else none
    else none

def Parts.ofChars (cs : List Char) : Option Parts :=
  let (sign, cs) := takeSign cs
  let whole := cs.takeWhile isDigit
  let (fraction, cs) := takeFraction (cs.dropWhile isDigit)
  (takeExponent cs).map fun exponent => { sign, whole, fraction, exponent }

def Parts.numeral (p : Parts) : Numeral :=
  let fraction := p.fraction.getD []
  let power : Int := match p.exponent with
    | none => 0
    | some (sign, ds) => if sign = some '-' then -(digitsValue ds : Int) else digitsValue ds
  { negative := p.sign = some '-'
    digits := digitsValue (p.whole ++ fraction)
    exponent := power - fraction.length }

/-- A number with digits on at least one side of its point, and behind an exponent mark
    if it has one. -/
def ofChars (cs : List Char) : Option Numeral := do
  let p ← Parts.ofChars cs
  if p.whole.isEmpty && (p.fraction.getD []).isEmpty then none
  else if p.exponent.any (·.2.isEmpty) then none
  else some p.numeral

end Numeral

end Tariff
