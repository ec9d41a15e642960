/-
  Tariff.Proofs.Order.Numeric — which data in a numeric field is a number.

  Rules read it as binary64, prices as a decimal. Prices take underscores between digits
  and a plus behind the minus of an exponent, which rules do not; rules take numbers of
  any size, prices those that 96 bits and 28 places hold. On all other data they agree.
  - `numeric_verdicts`: what either makes of it, and where they agree.
-/
import Mathlib.Tactic.NormNum
import Tariff.Charge
import Tariff.Proofs.Binary64
import Tariff.Proofs.Decimal.Text
import Tariff.Proofs.Order.Value

namespace Tariff

open Numeral Decimal

namespace Numeral

def Parts.front (p : Parts) : Rat := p.digits / tenTo p.places

/-- The exponent is of at most 28, and neither the number in front of it nor the number itself rounds to more
    than 96 bits. -/
structure Parts.InRange (p : Parts) : Prop where
  power : -28 ≤ p.power ∧ p.power ≤ 28
  lt : p.front * tenTo p.power.toNat < maxCoefficient + 1 / 2

theorem Parts.inRange_iff (p : Parts) :
    p.InRange ↔ -28 ≤ p.power ∧ Movable p.digits p.places p.power.toNat := by
  have hp := tenTo_cast_pos p.places
  have hlt : p.front * tenTo p.power.toNat < maxCoefficient + 1 / 2 ↔
      2 * (p.digits * tenTo p.power.toNat) < (2 * maxCoefficient + 1) * tenTo p.places := by
    have hcast : 2 * (p.digits * tenTo p.power.toNat) < (2 * maxCoefficient + 1) * tenTo p.places ↔
        (2 : Rat) * (p.digits * tenTo p.power.toNat) < (2 * maxCoefficient + 1) * tenTo p.places := by norm_cast
    rw [hcast, Parts.front, div_mul_eq_mul_div, div_lt_iff₀ hp]
    constructor <;> intro h <;> linarith
  have hle : p.power ≤ 28 ↔ p.power.toNat ≤ 28 := by omega
  rw [Movable, ← hlt, ← hle, ← and_assoc]
  exact ⟨fun h => ⟨h.power, h.lt⟩, fun h => ⟨h.1, h.2⟩⟩

/-- Numbers in range have a nearest binary64 number. -/
theorem Parts.InRange.ofNumeral_isSome {p : Parts} (h : p.InRange) : (Binary64.ofNumeral p.numeral).isSome = true := by
  obtain ⟨-, -, hlt⟩ := p.inRange_iff.mp h
  rw [p.numeral_eq]
  refine Binary64.ofNumeral_isSome ?_
  simp only
  -- one power of ten on either side, of which the places and a negative power are on the right
  have hsum : (p.power - p.places).toNat + ((-p.power).toNat + p.places) =
      p.power.toNat + (-(p.power - p.places)).toNat := by omega
  generalize (p.power - p.places).toNat = u at hsum ⊢
  generalize (-(p.power - p.places)).toNat = v at hsum ⊢
  have hpow : tenTo u * tenTo ((-p.power).toNat + p.places) = tenTo p.power.toNat * tenTo v := by
    rw [← tenTo_add, ← tenTo_add, hsum]
  have hmax : twoTo 96 = maxCoefficient + 1 := by decide
  have hplaces := tenTo_pos p.places
  have hbound : p.digits * tenTo p.power.toNat < twoTo 96 * tenTo p.places := by
    rw [hmax]
    nlinarith
  have hv := tenTo_pos v
  refine Nat.lt_of_mul_lt_mul_right (a := tenTo ((-p.power).toNat + p.places)) ?_
  calc p.digits * tenTo u * tenTo ((-p.power).toNat + p.places)
      = p.digits * tenTo p.power.toNat * tenTo v := by rw [Nat.mul_assoc, hpow, Nat.mul_assoc]
    _ < twoTo 96 * tenTo p.places * tenTo v := Nat.mul_lt_mul_of_pos_right hbound hv
    _ ≤ twoTo 96 * tenTo p.places * tenTo v * tenTo (-p.power).toNat := Nat.le_mul_of_pos_right _ (tenTo_pos _)
    _ = twoTo 96 * tenTo v * tenTo ((-p.power).toNat + p.places) := by rw [tenTo_add]; ring

end Numeral

/-! ## How data is written -/

/-- The text of a JSON number, and that of a text without the blanks around it. -/
def Json.Value.written : Json.Value → Option (List Char)
  | .number n => some n.text.toList
  | .string s => some (Text.trim s).toList
  | _ => none

theorem whole_chars (n : Int) :
    ∃ p, Parts.Valid p ∧ (toString n).toList = p.chars 'e' ∧ p.digits = n.natAbs ∧ p.places = 0 ∧ p.power = 0 := by
  have valid : ∀ (sign : Option Char) (m : Nat), (∀ c ∈ sign, isSign c = true) →
      Parts.Valid ⟨sign, digitsOf m, none, none⟩ := by
    intro sign m hs
    exact ⟨⟨hs, fun c hc => isDigit_of_mem_digitsOf hc, by simp, by simp, by simp⟩, by simp [digitsOf_ne_nil], by simp⟩
  have digits : ∀ (sign : Option Char) (m : Nat), Parts.digits ⟨sign, digitsOf m, none, none⟩ = m := by
    intro sign m
    rw [Parts.digits, Option.getD_none, List.append_nil, digitsValue_digitsOf]
  have plain : ∀ (sign : Option Char) (m : Nat),
      Parts.chars ⟨sign, digitsOf m, none, none⟩ 'e' = sign.toList ++ digitsOf m := by
    intro sign m
    rw [Parts.chars, Parts.body, fractionChars, exponentChars, List.append_nil, List.append_nil]
  cases n with
  | ofNat m =>
    refine ⟨⟨none, digitsOf m, none, none⟩, valid none m (by simp), ?_, digits none m, rfl, rfl⟩
    rw [Int.toString_eq_repr, plain]
    exact Nat.toList_repr
  | negSucc m =>
    refine ⟨⟨some '-', digitsOf (m + 1), none, none⟩, valid (some '-') (m + 1) (by simp [isSign]), ?_,
      digits (some '-') (m + 1), rfl, rfl⟩
    rw [Int.toString_eq_repr]
    show ("-" ++ (m + 1).repr).toList = _
    rw [String.toList_append, Nat.toList_repr, plain]
    rfl

theorem number_chars (n : Json.Number) : ∃ p, Parts.Valid p ∧ n.text.toList = p.chars 'e' := by
  cases n with
  | whole n =>
    obtain ⟨p, hp, hcs, -⟩ := whole_chars n
    exact ⟨p, hp, hcs⟩
  | binary x => exact Binary64.text_chars x

theorem numberOfJson_string (s : String) :
    numberOfJson (.string s) = (Numeral.ofChars (Text.trim s).toList).bind Binary64.ofNumeral := rfl

/-- What is written as no number is read as none. -/
theorem read_of_not_written {v : Json.Value} (h : v.written = none) :
    numberOfJson v = none ∧ Order.decimalOf v = none := by
  cases v with
  | number n => cases h
  | string s => cases h
  | _ => exact ⟨rfl, rfl⟩

/-- A decimal is read from what is written. -/
theorem decimalOf_written {v : Json.Value} {w : List Char} (h : v.written = some w) :
    ∃ s, String.toList s = w ∧ Order.decimalOf v = Decimal.ofText s := by
  cases v with
  | number n =>
    cases h
    exact ⟨n.text, rfl, rfl⟩
  | string s => exact ⟨Text.trim s, Option.some.inj h, rfl⟩
  | _ => cases h

/-! ## Reading either way -/

/-- What rules take as a number is written as a numeral. -/
theorem parts_of_number {v : Json.Value} (h : (numberOfJson v).isSome = true) :
    ∃ w p, v.written = some w ∧ Parts.Valid p ∧ Parts.ofChars w = some p := by
  cases v with
  | number n =>
    obtain ⟨p, hp, hcs⟩ := number_chars n
    exact ⟨_, p, rfl, hp, by rw [hcs]; exact Parts.ofChars_chars hp.toFormed rfl⟩
  | string s =>
    obtain ⟨x, hx⟩ := Option.isSome_iff_exists.mp h
    rw [numberOfJson_string] at hx
    obtain ⟨n, hn, -⟩ := Option.bind_eq_some_iff.mp hx
    obtain ⟨p, hof, hp, -⟩ := Numeral.ofChars_eq_some_iff.mp hn
    exact ⟨_, p, rfl, hp, hof⟩
  | _ => cases h

/-- What prices take, and is written tidily, is written as a numeral. -/
theorem parts_of_decimal {v : Json.Value} {w : List Char} (hw : v.written = some w) (ht : Tidy w)
    (h : (Order.decimalOf v).isSome = true) : ∃ p, Parts.Valid p ∧ Parts.ofChars w = some p := by
  obtain ⟨s, rfl, hs⟩ := decimalOf_written hw
  rw [hs] at h
  obtain ⟨d, hd⟩ := Option.isSome_iff_exists.mp h
  obtain ⟨p, mark, hp, hm, hcs⟩ := Decimal.parts_of_ofText ht hd
  exact ⟨p, hp, by rw [hcs]; exact Parts.ofChars_chars hp.toFormed hm⟩

theorem decimalOf_isSome_iff {v : Json.Value} {w : List Char} {p : Parts} (hw : v.written = some w) (hp : p.Valid)
    (hof : Parts.ofChars w = some p) : (Order.decimalOf v).isSome = true ↔ p.InRange := by
  obtain ⟨s, rfl, hs⟩ := decimalOf_written hw
  obtain ⟨-, mark, hm, hcs⟩ := Parts.ofChars_eq_some_iff.mp hof
  rw [hs, Decimal.ofText_isSome_iff hp hm hcs, Parts.inRange_iff]

theorem numberOfJson_isSome {v : Json.Value} {w : List Char} {p : Parts} (hw : v.written = some w) (hp : p.Valid)
    (hof : Parts.ofChars w = some p) (h : p.InRange) : (numberOfJson v).isSome = true := by
  cases v with
  | number n =>
    cases n with
    | binary x => rfl
    | whole n =>
      obtain ⟨q, hq, hcs, hdigits, hplaces, hpower⟩ := whole_chars n
      have hpq : p = q := by
        have hofq : Parts.ofChars (toString n).toList = some q := by
          rw [hcs]
          exact Parts.ofChars_chars hq.toFormed rfl
        have hw : (toString n).toList = w := Option.some.inj hw
        rw [hw, hof] at hofq
        exact Option.some.inj hofq
      obtain ⟨-, -, hlt⟩ := (Parts.inRange_iff p).mp h
      rw [hpq, hdigits, hplaces, hpower] at hlt
      refine Binary64.nearest_isSome _ ?_
      have hmax : twoTo 96 = maxCoefficient + 1 := by decide
      have hone : tenTo 0 = 1 := rfl
      rw [Int.toNat_zero, hone] at hlt
      omega
  | string s =>
    have hnumeral : Numeral.ofChars w = some p.numeral := Numeral.ofChars_eq_some_iff.mpr ⟨p, hof, hp, rfl⟩
    have hw : (Text.trim s).toList = w := Option.some.inj hw
    rw [numberOfJson_string, hw, hnumeral, Option.bind_some]
    exact h.ofNumeral_isSome
  | _ => cases hw

/-! ## What rules and prices make of a field -/

namespace Order

def IsNumber (o : Order) (f : NumericField) : Prop := ∃ x, o.value (.numeric f) = .number x

def IsPriced (o : Order) (f : NumericField) : Prop := ∃ d, o.decimal f = .ok d

theorem decimal_numeric {o : Order} {f : NumericField} {v : Json.Value} (h : o.number? f = some v) :
    o.decimal f = (decimalOf v).elim (.error (.nonNumeric f v)) .ok := by
  simp only [decimal, h]

theorem isNumber_iff {o : Order} {f : NumericField} {v : Json.Value} (h : o.number? f = some v) :
    o.IsNumber f ↔ (numberOfJson v).isSome = true := by
  rw [IsNumber, value_numeric h]
  cases numberOfJson v <;> simp

theorem isPriced_iff {o : Order} {f : NumericField} {v : Json.Value} (h : o.number? f = some v) :
    o.IsPriced f ↔ (decimalOf v).isSome = true := by
  rw [IsPriced, decimal_numeric h]
  cases decimalOf v <;> simp

/-- What rules and prices make of the data `v` of a field. -/
structure Verdicts (o : Order) (f : NumericField) (v : Json.Value) : Prop where
  rules : o.value (.numeric f) = .unparseable ∨ o.IsNumber f
  prices : o.decimal f = .error (.nonNumeric f v) ∨ o.IsPriced f
  /-- They agree on data that is written tidily and is in range. -/
  agree : (∀ w, v.written = some w → Tidy w ∧ ∀ p, Parts.ofChars w = some p → p.InRange) →
    (o.IsNumber f ↔ o.IsPriced f)
  /-- Of the data that is priced, rules take what is written tidily. -/
  ofPriced : o.IsPriced f → (o.IsNumber f ↔ ∀ w, v.written = some w → Tidy w)
  /-- Of the numbers, prices take those in range. -/
  ofNumber : o.IsNumber f → ∃ w p, v.written = some w ∧ Parts.ofChars w = some p ∧ (o.IsPriced f ↔ p.InRange)

theorem numeric_verdicts (o : Order) (f : NumericField) (v : Json.Value) (h : o.number? f = some v) :
    Verdicts o f v := by
  have ofPriced : o.IsPriced f → (o.IsNumber f ↔ ∀ w, v.written = some w → Tidy w) := by
    rw [isNumber_iff h, isPriced_iff h]
    intro hpriced
    constructor
    · intro hnumber w hw
      obtain ⟨w', p, hw', hp, hof⟩ := parts_of_number hnumber
      obtain rfl := Option.some.inj (hw.symm.trans hw')
      obtain ⟨-, mark, hm, rfl⟩ := Parts.ofChars_eq_some_iff.mp hof
      exact hp.tidy hm
    · intro htidy
      cases hw : v.written with
      | none =>
        rw [(read_of_not_written hw).2] at hpriced
        cases hpriced
      | some w =>
        obtain ⟨p, hp, hof⟩ := parts_of_decimal hw (htidy w hw) hpriced
        exact numberOfJson_isSome hw hp hof ((decimalOf_isSome_iff hw hp hof).mp hpriced)
  have ofNumber : o.IsNumber f →
      ∃ w p, v.written = some w ∧ Parts.ofChars w = some p ∧ (o.IsPriced f ↔ p.InRange) := by
    rw [isNumber_iff h, isPriced_iff h]
    intro hnumber
    obtain ⟨w, p, hw, hp, hof⟩ := parts_of_number hnumber
    exact ⟨w, p, hw, hof, decimalOf_isSome_iff hw hp hof⟩
  refine ⟨?_, ?_, ?_, ofPriced, ofNumber⟩
  · rw [IsNumber, value_numeric h]
    cases numberOfJson v <;> simp
  · rw [IsPriced, decimal_numeric h]
    cases decimalOf v <;> simp
  · intro hclean
    constructor
    · intro hnumber
      obtain ⟨w, p, hw, hof, hiff⟩ := ofNumber hnumber
      exact hiff.mpr ((hclean w hw).2 p hof)
    · intro hpriced
      exact (ofPriced hpriced).mpr fun w hw => (hclean w hw).1

namespace Small

def weighing (s : String) : Order :=
  (Order.new "o-1" "c-1" ⟨2024, 3, 1, by decide⟩).withNumber (.numeric .weightLb) (.string s)

end Small

/-- A weight of 125 pounds, which both read. -/
theorem numeric_verdicts_small :
    (Small.weighing " 12.5e+1 ").number? .weightLb = some (.string " 12.5e+1 ") ∧
      Verdicts (Small.weighing " 12.5e+1 ") .weightLb (.string " 12.5e+1 ") ∧
      ((Small.weighing " 12.5e+1 ").decimal .weightLb).toOption.map Decimal.value = some 125 :=
  ⟨rfl, numeric_verdicts (Small.weighing " 12.5e+1 ") .weightLb (.string " 12.5e+1 ") rfl, by decide +kernel⟩

/-- Prices read an underscore that rules do not, rules a number that prices cannot hold. -/
theorem number_differs_from_price :
    ¬((Small.weighing "1_000").IsNumber .weightLb ↔ (Small.weighing "1_000").IsPriced .weightLb) ∧
      ¬((Small.weighing "1e30").IsNumber .weightLb ↔ (Small.weighing "1e30").IsPriced .weightLb) := by
  constructor
  · rw [isNumber_iff (v := .string "1_000") rfl, isPriced_iff (v := .string "1_000") rfl]
    decide +kernel
  · rw [isNumber_iff (v := .string "1e30") rfl, isPriced_iff (v := .string "1e30") rfl]
    decide +kernel

end Order

end Tariff
