/-
  Tariff.Proofs.Sku.Totals — totals, and the quantities that no decimal holds.

  A quantity has a decimal unless it is 2^96 or more (`toDecimal_eq_none_iff`). Both totals
  go on without a quantity that has none: the selected quantities leave it out, and its
  cases count as zero. So a total may be given though a line is missing in it. `Complete`
  says that this does not happen, and `totals_complete_iff` when.
-/
import Tariff.Charge
import Tariff.Proofs.Sku.Lines

namespace Tariff

/-! ## Binary64 numbers that have a decimal -/

namespace Decimal

theorem halve_lt {m : Nat} (n : Nat) (e : Int) (h : m < twoTo 96) : (halve n m e).1 < twoTo 96 := by
  induction n generalizing m e with
  | zero => exact h
  | succ n ih =>
    have hhalf : m / 2 < twoTo 96 := Nat.lt_of_le_of_lt (Nat.div_le_self m 2) h
    unfold halve
    split_ifs with heven hroom
    · exact ih _ hhalf
    · exact ih _ hroom
    · exact ih _ hhalf

theorem coarsen_le (n m : Nat) : coarsen n m ≤ m := by
  induction n generalizing m with
  | zero => exact Nat.le_refl m
  | succ n ih =>
    unfold coarsen
    split_ifs
    · exact Nat.zero_le m
    · exact Nat.le_trans (ih _) (halfUp_le m (by decide))

theorem settle_le (m scale : Nat) : (settle m scale).1 ≤ m ∧ (settle m scale).2 ≤ scale := by
  induction scale generalizing m with
  | zero => exact ⟨Nat.le_refl m, Nat.le_refl 0⟩
  | succ scale ih =>
    unfold settle
    split_ifs
    · obtain ⟨hm, hs⟩ := ih (halfUp m 10)
      exact ⟨Nat.le_trans hm (halfUp_le m (by decide)), Nat.le_succ_of_le hs⟩
    · exact ⟨Nat.le_refl m, Nat.le_refl _⟩

theorem ofScaled_isSome (negative : Bool) {m : Nat} (places : Nat) (h : m < twoTo 96) :
    (ofScaled negative m places).isSome = true := by
  have hm := coarsen_le (places - maxScale) m
  unfold ofScaled
  generalize coarsen (places - maxScale) m = m' at hm
  dsimp only
  split_ifs with hzero
  · rfl
  · obtain ⟨hle, hscale⟩ := settle_le m' (min places maxScale)
    have hparts : (settle m' (min places maxScale)).1 < twoTo 96 ∧ (settle m' (min places maxScale)).2 ≤ 28 :=
      ⟨by omega, Nat.le_trans hscale (Nat.min_le_right places maxScale)⟩
    rw [ofParts, dif_pos hparts]
    rfl

/-- A number above zero has a decimal if and only if it is below 2^96. -/
theorem ofBinary64_eq_none_iff {x : Binary64} (hn : x.negative = false) (hpos : 0 < x.significand)
    (h : x.significand < twoTo 53) : ofBinary64 x = none ↔ (twoTo 96 : Rat) ≤ x.value := by
  have hvalue : x.value = (x.significand * twoTo x.exponent.toNat : Nat) / (twoTo (-x.exponent).toNat : Nat) := by
    rw [Binary64.value, hn]
    exact Rat.mkRat_eq_div _ _
  unfold ofBinary64
  rw [if_neg (by omega), hvalue]
  split_ifs with he
  · rw [show (-x.exponent).toNat = 0 by omega, ofParts_eq_none_iff (by decide)]
    simp only [twoTo, Nat.pow_eq, pow_zero, Nat.cast_one, div_one]
    exact_mod_cast Iff.rfl
  · have hsome := ofScaled_isSome x.negative (-(halve (-x.exponent).toNat x.significand x.exponent).2).toNat
      (halve_lt (-x.exponent).toNat x.exponent (Nat.lt_trans h (by decide)))
    constructor
    · intro hnone
      simp only [hnone] at hsome
      cases hsome
    · -- a fraction of the significand
      intro hlarge
      rw [show x.exponent.toNat = 0 by omega] at hlarge
      have hden : (1 : Rat) ≤ (twoTo (-x.exponent).toNat : Nat) := by
        exact_mod_cast Nat.one_le_two_pow
      have hle : ((x.significand * twoTo 0 : Nat) : Rat) / (twoTo (-x.exponent).toNat : Nat) ≤ x.significand := by
        rw [show x.significand * twoTo 0 = x.significand from Nat.mul_one _]
        exact div_le_self (Nat.cast_nonneg _) hden
      have : twoTo 96 ≤ x.significand := by exact_mod_cast hlarge.trans hle
      have hbound : twoTo 53 ≤ twoTo 96 := by decide
      omega

/-- 2^96, and the number in front of it. -/
example : ofBinary64 ⟨false, twoTo 52, 44⟩ = none ∧
    ofBinary64 ⟨false, twoTo 53 - 1, 43⟩ = ofParts false (twoTo 96 - twoTo 43) 0 := by decide +kernel

/-! ## Sums with zeros in them -/

theorem add_zero_right (a : Decimal) : ∃ b, a.add zero = some b ∧ (b = a ∨ a.isZero ∧ b.isZero) := by
  unfold add
  split_ifs with ha hz
  · exact ⟨zero, rfl, .inr ⟨ha, rfl⟩⟩
  · exact ⟨a, rfl, .inl rfl⟩
  · exact absurd rfl hz

/-- A zero in place of what is missing does not change whether the sum overflows. -/
theorem foldlM_add_getD_eq_none_iff {α : Type} (f : α → Option Decimal) (xs : List α) {a b : Decimal}
    (h : b = a ∨ a.isZero ∧ b.isZero) :
    (xs.map fun x => (f x).getD zero).foldlM add b = none ↔ (xs.filterMap f).foldlM add a = none := by
  induction xs generalizing a b with
  | nil => simp
  | cons x xs ih =>
    rw [List.map_cons, List.foldlM_cons]
    cases hx : f x with
    | none =>
      obtain ⟨c, hc, hcb⟩ := b.add_zero_right
      have hca : c = a ∨ a.isZero ∧ c.isZero := by
        rcases hcb with rfl | ⟨hb, hc⟩
        · exact h
        · rcases h with rfl | ⟨ha, -⟩
          · exact .inr ⟨hb, hc⟩
          · exact .inr ⟨ha, hc⟩
      rw [List.filterMap_cons_none hx, Option.getD_none, hc]
      exact ih hca
    | some d =>
      have hadd : b.add d = a.add d := by
        rcases h with rfl | ⟨ha, hb⟩
        · rfl
        · rw [add, add, if_pos ha, if_pos hb]
      rw [List.filterMap_cons_some hx, List.foldlM_cons, Option.getD_some, hadd]
      cases a.add d with
      | none => simp
      | some c => exact ih (.inl rfl)

end Decimal

/-! ## Quantities -/

namespace Sku

namespace Quantity

/-- It is 2^96 or more, or beyond all numbers. -/
def Oversized : Quantity → Prop
  | .whole n => twoTo 96 ≤ n
  | .fractional x => (twoTo 96 : Rat) ≤ x.value
  | .unbounded => True

instance : DecidablePred Oversized
  | .whole n => inferInstanceAs (Decidable (twoTo 96 ≤ n))
  | .fractional x => inferInstanceAs (Decidable ((twoTo 96 : Rat) ≤ x.value))
  | .unbounded => inferInstanceAs (Decidable True)

theorem toDecimal_eq_none_iff {q : Quantity} (h : q.Given) : q.toDecimal = none ↔ q.Oversized := by
  cases q with
  | whole n => exact Decimal.ofParts_eq_none_iff (by decide)
  | fractional x => exact Decimal.ofBinary64_eq_none_iff h.1 h.2.1 h.2.2
  | unbounded => exact h.elim

theorem toDecimal_isSome {q : Quantity} (h : q.Given) (hfits : ¬q.Oversized) : q.toDecimal.isSome = true :=
  Option.ne_none_iff_isSome.mp fun hnone => hfits ((toDecimal_eq_none_iff h).mp hnone)

end Quantity

/-! ## Totals -/

/-- The total of some quantities leaves none out: one that is oversized is an overflow, and a total that is given is
    the sum of them all. -/
structure Complete (amount : Amount) (qs : List Quantity) (total : Except ChargeError Decimal) : Prop where
  overflow_of_oversized : (∃ q ∈ qs, q.Oversized) → total = .error (.overflow amount)
  sum_of_ok : ∀ d, total = .ok d → ∃ ds, qs.mapM Quantity.toDecimal = some ds ∧ Decimal.sum ds = some d

variable {amount : Amount} {qs : List Quantity} {total : Except ChargeError Decimal}

theorem complete_of_error (h : total = .error (.overflow amount)) : Complete amount qs total where
  overflow_of_oversized := fun _ => h
  sum_of_ok := by
    intro d hd
    rw [hd] at h
    cases h

/-- Without oversized quantities each has its decimal, whatever would have stood for a missing one. -/
theorem decimals_of_fitting (hgiven : ∀ q ∈ qs, q.Given) (hfits : ∀ q ∈ qs, ¬q.Oversized) :
    ∃ ds, qs.mapM Quantity.toDecimal = some ds ∧ qs.filterMap Quantity.toDecimal = ds ∧
      ∀ other, qs.map (fun q => q.toDecimal.getD other) = ds := by
  induction qs with
  | nil => exact ⟨[], rfl, rfl, fun _ => rfl⟩
  | cons q qs ih =>
    obtain ⟨hq, hqs⟩ := List.forall_mem_cons.mp hgiven
    obtain ⟨hfit, hfits⟩ := List.forall_mem_cons.mp hfits
    obtain ⟨d, hd⟩ := Option.isSome_iff_exists.mp (Quantity.toDecimal_isSome hq hfit)
    obtain ⟨ds, hmapM, hfilterMap, hmap⟩ := ih hqs hfits
    refine ⟨d :: ds, ?_, ?_, ?_⟩
    · simp [List.mapM_cons, hd, hmapM]
    · rw [List.filterMap_cons_some hd, hfilterMap]
    · intro other
      rw [List.map_cons, hd, hmap other, Option.getD_some]

/-- A total that is right without oversized quantities is complete if there are none, or if the others overflow. -/
theorem complete_iff
    (hsum : (∀ q ∈ qs, ¬q.Oversized) →
      ∃ ds, qs.mapM Quantity.toDecimal = some ds ∧ total = amount.orOverflow (Decimal.sum ds)) :
    Complete amount qs total ↔ (∀ q ∈ qs, ¬q.Oversized) ∨ total = .error (.overflow amount) := by
  constructor
  · intro h
    by_cases hlarge : ∃ q ∈ qs, q.Oversized
    · exact .inr (h.overflow_of_oversized hlarge)
    · push Not at hlarge
      exact .inl hlarge
  · rintro (hfits | herror)
    · obtain ⟨ds, hds, htotal⟩ := hsum hfits
      refine ⟨?_, ?_⟩
      · rintro ⟨q, hq, hlarge⟩
        exact absurd hlarge (hfits q hq)
      · intro d hd
        rw [htotal] at hd
        exact ⟨ds, hds, Amount.orOverflow_eq_ok_iff.mp hd⟩
    · exact complete_of_error herror

namespace Ledger

variable {l : Ledger} {excluded : Table Unit} {s : CaseSummary}

def selectedQuantities (l : Ledger) (allowed : Table Unit) : List Quantity :=
  (l.entries.filter fun e => allowed.contains e.sku).map (·.quantity)

def countedCases (l : Ledger) (excluded : Table Unit) : List Quantity := (l.counted excluded).map (·.cases)

theorem given_of_mem_selectedQuantities (h : l.Given) (allowed : Table Unit) :
    ∀ q ∈ l.selectedQuantities allowed, q.Given := by
  intro q hq
  obtain ⟨e, he, rfl⟩ := List.mem_map.mp hq
  exact (h e (List.mem_of_mem_filter he)).1

theorem given_of_mem_countedCases (h : l.Given) (excluded : Table Unit) : ∀ q ∈ l.countedCases excluded, q.Given := by
  intro q hq
  obtain ⟨e, he, rfl⟩ := List.mem_map.mp hq
  exact (h e (List.mem_of_mem_filter he)).2

theorem quantityOf_eq (allowed : Table Unit) :
    l.quantityOf allowed =
      Amount.skuQuantityTotal.orOverflow (Decimal.sum ((l.selectedQuantities allowed).filterMap Quantity.toDecimal)) := by
  rw [selectedQuantities, List.filterMap_map]
  rfl

def caseDecimals (l : Ledger) (excluded : Table Unit) : List Decimal :=
  (l.countedCases excluded).map fun q => q.toDecimal.getD .zero

theorem caseSummary_eq (l : Ledger) (excluded : Table Unit) :
    l.caseSummary excluded = (Amount.caseTotal.orOverflow (Decimal.sum (l.caseDecimals excluded))).map fun d =>
      ⟨d, !l.isEmpty && (l.counted excluded).isEmpty⟩ := by
  rw [caseDecimals, countedCases, List.map_map, Function.comp_def, caseSummary]
  cases Decimal.sum ((l.counted excluded).map fun e => e.cases.toDecimal.getD .zero) <;> rfl

theorem caseSummary_eq_ok_iff :
    l.caseSummary excluded = .ok s ↔
      Decimal.sum (l.caseDecimals excluded) = some s.totalCases ∧
        s.excludedOnly = (!l.isEmpty && (l.counted excluded).isEmpty) := by
  obtain ⟨total, only⟩ := s
  rw [caseSummary_eq]
  cases Decimal.sum (l.caseDecimals excluded) with
  | none => simp [Amount.orOverflow, Except.map]
  | some d => simp [Except.map, eq_comm]

theorem totalCases_eq (excluded : Table Unit) :
    (l.caseSummary excluded).map (·.totalCases) =
      Amount.caseTotal.orOverflow (Decimal.sum ((l.countedCases excluded).map fun q => q.toDecimal.getD .zero)) := by
  rw [caseSummary_eq, caseDecimals]
  cases Decimal.sum ((l.countedCases excluded).map fun q => q.toDecimal.getD .zero) <;> rfl

/-- A total of a ledger is complete if and only if no line that counts is oversized, or the others overflow. -/
theorem totals_complete_iff (l : Ledger) (h : l.Given) (set : Table Unit) :
    (Complete .skuQuantityTotal (l.selectedQuantities set) (l.quantityOf set) ↔
      (∀ q ∈ l.selectedQuantities set, ¬q.Oversized) ∨
        Decimal.sum ((l.selectedQuantities set).filterMap Quantity.toDecimal) = none) ∧
    (Complete .caseTotal (l.countedCases set) ((l.caseSummary set).map (·.totalCases)) ↔
      (∀ q ∈ l.countedCases set, ¬q.Oversized) ∨
        Decimal.sum ((l.countedCases set).filterMap Quantity.toDecimal) = none) := by
  constructor
  · rw [quantityOf_eq, complete_iff, Amount.orOverflow_eq_error_iff]
    intro hfits
    obtain ⟨ds, hds, hothers, -⟩ := decimals_of_fitting (given_of_mem_selectedQuantities h set) hfits
    exact ⟨ds, hds, by rw [hothers]⟩
  · rw [totalCases_eq, complete_iff, Amount.orOverflow_eq_error_iff, Decimal.sum,
      Decimal.foldlM_add_getD_eq_none_iff Quantity.toDecimal _ (.inl rfl), ← Decimal.sum]
    intro hfits
    obtain ⟨ds, hds, -, hothers⟩ := decimals_of_fitting (given_of_mem_countedCases h set) hfits
    exact ⟨ds, hds, by rw [hothers]⟩

namespace Small

/-- 1e29 of one SKU, which is more than 2^96, and two of another. -/
def bulk : Ledger := ofText "\x7b\"A\":1e29,\"B\":2\x7d"

def few : Ledger := ofText "\x7b\"A\":3,\"B\":2\x7d"

def two : Decimal := (Decimal.ofNat 2).getD .zero

end Small

/-- Three of one SKU are selected, and the other is the one that is not excluded. -/
theorem totals_complete_few :
    Complete .skuQuantityTotal (Small.few.selectedQuantities (setOf ["a"])) (Small.few.quantityOf (setOf ["a"])) ∧
      Complete .caseTotal (Small.few.countedCases (setOf ["a"]))
        ((Small.few.caseSummary (setOf ["a"])).map (·.totalCases)) := by
  have hiff := totals_complete_iff Small.few (given_ofText _) (setOf ["a"])
  exact ⟨hiff.1.mpr (.inl (by decide +kernel)), hiff.2.mpr (.inl (by decide +kernel))⟩

/-- Of 1e29 and 2, both totals are 2. -/
theorem totals_without_bulk :
    (Small.bulk.quantityOf (setOf ["a", "b"]) = .ok Small.two ∧
      ¬Complete .skuQuantityTotal (Small.bulk.selectedQuantities (setOf ["a", "b"]))
        (Small.bulk.quantityOf (setOf ["a", "b"]))) ∧
      (Small.bulk.caseSummary (setOf [])).map (·.totalCases) = .ok Small.two ∧
      ¬Complete .caseTotal (Small.bulk.countedCases (setOf []))
        ((Small.bulk.caseSummary (setOf [])).map (·.totalCases)) := by
  have hquantity : Small.bulk.quantityOf (setOf ["a", "b"]) = .ok Small.two := by
    rw [quantityOf_eq]
    exact Amount.orOverflow_eq_ok_iff.mpr (by decide +kernel)
  have hcases : (Small.bulk.caseSummary (setOf [])).map (·.totalCases) = .ok Small.two := by
    rw [totalCases_eq]
    exact Amount.orOverflow_eq_ok_iff.mpr (by decide +kernel)
  refine ⟨⟨hquantity, ?_⟩, hcases, ?_⟩
  · intro h
    have herror := h.overflow_of_oversized (by decide +kernel)
    rw [hquantity] at herror
    cases herror
  · intro h
    have herror := h.overflow_of_oversized (by decide +kernel)
    rw [hcases] at herror
    cases herror

end Ledger

end Sku

end Tariff
