/-
  Tariff.Proofs.Charge — a charge is the exact price, rounded once.

  `exactPrice` is the price without any rounding: the amounts of the calculations, each
  kept from being negative, as rationals. As long as the products, the hundredths and the
  running totals on the way (`steps`) are representable, only data that is no decimal makes
  a charge fail, and the charge is the cent nearest to the price.
  - `amount_exact`: one calculation.
  - `foldlM_addAmount_exact`: the calculations of a service, one after the other.
  - `charge_exact`
-/
import Mathlib.Data.List.TakeWhile
import Tariff.Charge
import Tariff.Proofs.Decimal.Representable
import Tariff.Proofs.Report.Totals

namespace Tariff

open Decimal

/-! ## Fields -/

namespace Order

def exactField (o : Order) (f : NumericField) : Rat := (((o.number? f).bind decimalOf).map Decimal.value).getD 0

/-- There is data in the field, and it is no decimal. -/
def unreadable (o : Order) (f : NumericField) : Bool := (o.number? f).any fun v => (decimalOf v).isNone

theorem decimal_of_readable {o : Order} {f : NumericField} (h : o.unreadable f = false) :
    ∃ d, o.decimal f = .ok d ∧ d.value = o.exactField f := by
  unfold unreadable at h
  unfold decimal exactField
  cases hv : o.number? f with
  | none => exact ⟨.zero, rfl, value_zero⟩
  | some v =>
    rw [hv, Option.any_some, Option.isNone_eq_false_iff] at h
    obtain ⟨d, hd⟩ := Option.isSome_iff_exists.mp h
    exact ⟨d, by simp [hd], by simp [hd]⟩

theorem decimal_of_unreadable {o : Order} {f : NumericField} (h : o.unreadable f = true) :
    ∃ e, o.decimal f = .error e := by
  unfold unreadable at h
  unfold decimal
  cases hv : o.number? f with
  | none =>
    rw [hv] at h
    cases h
  | some v =>
    rw [hv, Option.any_some, Option.isNone_iff_eq_none] at h
    refine ⟨.nonNumeric f v, ?_⟩
    simp only [h, Option.elim_none]

end Order

/-! ## Prices without rounding -/

namespace CalculationKind

def field? : CalculationKind → Option NumericField
  | .perUnit => some .totalItemQty
  | .weightBased => some .weightLb
  | .volumeBased => some .volumeCuft
  | _ => none

end CalculationKind

namespace Calculation

def unreadable (c : Calculation) (o : Order) : Bool := c.kind.field?.any o.unreadable

/-- The multiplier of the tier that the order falls into, zero without one. -/
def exactMultiplier (c : Calculation) (o : Order) : Rat :=
  match c.multiplier o with
  | .ok (some m) => m.value
  | _ => 0

def exactQuantity (c : Calculation) (o : Order) : Rat :=
  match o.ledger.quantityOf (Sku.setOf c.skus) with
  | .ok q => q.value
  | .error _ => 0

def exactAmount (c : Calculation) (price : Rat) (o : Order) : Rat :=
  match c.kind with
  | .flatFee => c.value.value
  | .percentage => price * c.value.value / 100
  | .perUnit => price * o.exactField .totalItemQty
  | .weightBased => price * o.exactField .weightLb
  | .volumeBased => price * o.exactField .volumeCuft
  | .caseBasedTier => price * c.exactMultiplier o
  | .tieredPercentage => price * c.exactMultiplier o / 100
  | .productSpecific => price * c.exactQuantity o

def caseTotals (c : Calculation) (o : Order) : List Rat :=
  match c.tiers with
  | some t => runningTotals ((o.ledger.counted (Sku.setOf t.excludedSkus)).map fun e => e.cases.toDecimal.getD .zero)
  | none => []

def quantityTotals (c : Calculation) (o : Order) : List Rat :=
  runningTotals ((o.ledger.entries.filter fun e => (Sku.setOf c.skus).contains e.sku).filterMap (·.quantity.toDecimal))

/-- The totals, the product and the hundredth that the amount is computed from. -/
def steps (c : Calculation) (price : Rat) (o : Order) : List Rat :=
  match c.kind with
  | .flatFee => []
  | .percentage => [price * c.value.value, price * c.value.value / 100]
  | .perUnit => [price * o.exactField .totalItemQty]
  | .weightBased => [price * o.exactField .weightLb]
  | .volumeBased => [price * o.exactField .volumeCuft]
  | .caseBasedTier => c.caseTotals o ++ [price * c.exactMultiplier o]
  | .tieredPercentage => c.caseTotals o ++ [price * c.exactMultiplier o, price * c.exactMultiplier o / 100]
  | .productSpecific => c.quantityTotals o ++ [price * c.exactQuantity o]

end Calculation

namespace Service

def exactAddend (s : Service) (o : Order) (c : Calculation) : Rat := max 0 (c.exactAmount s.unitPrice.value o)

def exactPrice (s : Service) (o : Order) : Rat := (s.calculations.map (s.exactAddend o)).sum

/-- The calculations that are evaluated: those before the first one that reads data that is no decimal. -/
def evaluated (s : Service) (o : Order) : List Calculation := s.calculations.takeWhile (!·.unreadable o)

/-- Every number on the way to the charge: the steps of each calculation, and the running totals of the price. -/
def steps (s : Service) (o : Order) : List Rat :=
  (s.evaluated o).flatMap (·.steps s.unitPrice.value o) ++ ((s.evaluated o).map (s.exactAddend o)).scanl (· + ·) 0

end Service

/-! ## One calculation -/

namespace Calculation

variable {c : Calculation} {o : Order} {p : Decimal}

theorem product_exact {a : Decimal} (h : Representable (p.value * a.value)) :
    ∃ d, c.product p a = .ok d ∧ d.value = p.value * a.value := by
  obtain ⟨d, hd, hv⟩ := mul_of_representable h
  exact ⟨d, by rw [product, hd]; rfl, hv⟩

theorem percentage_exact {a : Decimal} (hproduct : Representable (p.value * a.value))
    (hquotient : Representable (p.value * a.value / 100)) :
    ∃ d, (c.product p a >>= c.hundredth) = .ok d ∧ d.value = p.value * a.value / 100 := by
  obtain ⟨b, hb, hbv⟩ := product_exact (c := c) hproduct
  rw [← hbv] at hquotient
  obtain ⟨d, hd, hdv⟩ := hundredth_of_representable hquotient
  refine ⟨d, ?_, by rw [hdv, hbv]⟩
  rw [hb]
  show c.hundredth b = .ok d
  rw [Calculation.hundredth, hd]
  rfl

/-- Case totals that are representable do not make the tier fail. -/
theorem multiplier_exact (h : ∀ x ∈ c.caseTotals o, Representable x) :
    (∃ m, c.multiplier o = .ok (some m) ∧ m.value = c.exactMultiplier o) ∨
      c.multiplier o = .ok none ∧ c.exactMultiplier o = 0 := by
  have hok : ∃ m, c.multiplier o = .ok m := by
    unfold multiplier
    cases ht : c.tiers with
    | none => exact ⟨none, rfl⟩
    | some t =>
      simp only [caseTotals, ht] at h
      obtain ⟨d, hd, -⟩ := sum_of_representable h
      exact ⟨_, by simp only [TierTable.multiplier, TierTable.summary, Sku.Ledger.caseSummary, hd]; rfl⟩
  obtain ⟨m, hm⟩ := hok
  cases m with
  | some m => exact .inl ⟨m, hm, by rw [exactMultiplier, hm]⟩
  | none => exact .inr ⟨hm, by rw [exactMultiplier, hm]⟩

theorem quantity_exact (h : ∀ x ∈ c.quantityTotals o, Representable x) :
    ∃ q, o.ledger.quantityOf (Sku.setOf c.skus) = .ok q ∧ q.value = c.exactQuantity o := by
  obtain ⟨d, hd, -⟩ := sum_of_representable h
  have hok : o.ledger.quantityOf (Sku.setOf c.skus) = .ok d := by
    rw [Sku.Ledger.quantityOf, hd]
    rfl
  exact ⟨d, hok, by rw [exactQuantity, hok]⟩

theorem field_exact {f : NumericField} (hf : o.unreadable f = false) (h : Representable (p.value * o.exactField f)) :
    ∃ d, (o.decimal f >>= c.product p) = .ok d ∧ d.value = p.value * o.exactField f := by
  obtain ⟨a, ha, hav⟩ := Order.decimal_of_readable hf
  rw [← hav] at h ⊢
  rw [ha]
  exact product_exact h

/-- A calculation that reads what it needs gives its exact amount. -/
theorem rawAmount_exact (hread : c.unreadable o = false) (h : ∀ x ∈ c.steps p.value o, Representable x) :
    ∃ d, c.rawAmount p o = .ok d ∧ d.value = c.exactAmount p.value o := by
  unfold rawAmount exactAmount
  unfold steps at h
  unfold unreadable at hread
  cases hk : c.kind <;> simp only [hk] at h hread ⊢
  case flatFee => exact ⟨c.value, rfl, rfl⟩
  case percentage => exact percentage_exact (h _ (by simp)) (h _ (by simp))
  case perUnit => exact field_exact hread (h _ (by simp))
  case weightBased => exact field_exact hread (h _ (by simp))
  case volumeBased => exact field_exact hread (h _ (by simp))
  case caseBasedTier =>
    rw [List.forall_mem_append] at h
    rcases multiplier_exact h.1 with ⟨m, hm, hv⟩ | ⟨hm, hzero⟩
    · rw [hm, ← hv]
      exact product_exact (h.2 _ (by simp [hv]))
    · rw [hm, hzero]
      exact ⟨.zero, rfl, by simp⟩
  case tieredPercentage =>
    rw [List.forall_mem_append] at h
    rcases multiplier_exact h.1 with ⟨m, hm, hv⟩ | ⟨hm, hzero⟩
    · rw [hm, ← hv]
      exact percentage_exact (h.2 _ (by simp [hv])) (h.2 _ (by simp [hv]))
    · rw [hm, hzero]
      exact ⟨.zero, rfl, by simp⟩
  case productSpecific =>
    rw [List.forall_mem_append] at h
    obtain ⟨q, hq, hv⟩ := quantity_exact h.1
    rw [hq, ← hv]
    exact product_exact (h.2 _ (by simp [hv]))

theorem amount_exact (hread : c.unreadable o = false) (h : ∀ x ∈ c.steps p.value o, Representable x) :
    ∃ d, c.amount p o = .ok d ∧ d.value = max 0 (c.exactAmount p.value o) := by
  obtain ⟨d, hd, hv⟩ := rawAmount_exact hread h
  refine ⟨d.clampZero, by rw [amount, hd]; rfl, ?_⟩
  rw [value_clampZero, hv]

theorem rawAmount_of_unreadable (h : c.unreadable o = true) : ∃ e, c.rawAmount p o = .error e := by
  unfold unreadable at h
  unfold rawAmount
  cases hk : c.kind <;> simp only [hk] at h ⊢
  case perUnit | weightBased | volumeBased =>
    obtain ⟨e, he⟩ := Order.decimal_of_unreadable h
    exact ⟨e, by rw [he]; rfl⟩
  -- no other kind reads a field
  all_goals cases h

theorem amount_of_unreadable (h : c.unreadable o = true) : ∃ e, c.amount p o = .error e := by
  obtain ⟨e, he⟩ := rawAmount_of_unreadable (p := p) h
  exact ⟨e, by rw [amount, he]; rfl⟩

end Calculation

/-! ## All calculations of a service -/

namespace Service

variable {s : Service} {o : Order}

theorem foldlM_addAmount_exact {cs : List Calculation} (acc : Decimal) (hread : ∀ c ∈ cs, c.unreadable o = false)
    (hsteps : ∀ c ∈ cs, ∀ x ∈ c.steps s.unitPrice.value o, Representable x)
    (htotals : ∀ x ∈ (cs.map (s.exactAddend o)).scanl (· + ·) acc.value, Representable x) :
    ∃ d, cs.foldlM (s.addAmount o) acc = .ok d ∧ d.value = acc.value + (cs.map (s.exactAddend o)).sum := by
  induction cs generalizing acc with
  | nil => exact ⟨acc, rfl, by simp⟩
  | cons c cs ih =>
    rw [List.map_cons, List.scanl_cons] at htotals
    have htotals := (List.forall_mem_cons.mp htotals).2
    obtain ⟨hc, hcs⟩ := List.forall_mem_cons.mp hread
    obtain ⟨hstep, hrest⟩ := List.forall_mem_cons.mp hsteps
    obtain ⟨a, ha, hav⟩ := Calculation.amount_exact hc hstep
    have hvalue : acc.value + a.value = acc.value + s.exactAddend o c := by rw [hav, exactAddend]
    obtain ⟨b, hb, hbv⟩ := add_of_representable (hvalue ▸ htotals _ (start_mem_scanl _ _))
    rw [← hvalue, ← hbv] at htotals
    obtain ⟨d, hd, hdv⟩ := ih b hcs hrest htotals
    refine ⟨d, ?_, by rw [hdv, hbv, hvalue, List.map_cons, List.sum_cons, add_assoc]⟩
    have hadd : s.addAmount o acc c = .ok b := by
      simp only [addAmount, ha, bind, Except.bind, hb]
      rfl
    rw [List.foldlM_cons, hadd]
    exact hd

theorem foldlM_addAmount_of_unreadable {cs : List Calculation} (acc : Decimal) {c : Calculation} (hc : c ∈ cs)
    (h : c.unreadable o = true) : ∃ e, cs.foldlM (s.addAmount o) acc = .error e := by
  induction cs generalizing acc with
  | nil => cases hc
  | cons b cs ih =>
    rw [List.foldlM_cons]
    cases hadd : s.addAmount o acc b with
    | error e => exact ⟨e, rfl⟩
    | ok acc' =>
      rcases List.mem_cons.mp hc with rfl | hc
      · obtain ⟨e, he⟩ := Calculation.amount_of_unreadable (p := s.unitPrice) h
        simp only [addAmount, he, bind, Except.bind] at hadd
        cases hadd
      · exact ih acc' hc

theorem exactPrice_nonneg : 0 ≤ s.exactPrice o := by
  refine List.sum_nonneg ?_
  intro x hx
  obtain ⟨c, -, rfl⟩ := List.mem_map.mp hx
  exact le_max_left _ _

theorem charge_of_unreadable {c : Calculation} (hc : c ∈ s.calculations) (h : c.unreadable o = true) :
    ∃ e, s.charge o = .error e := by
  obtain ⟨e, he⟩ := foldlM_addAmount_of_unreadable (s := s) .zero hc h
  refine ⟨e, ?_⟩
  rw [charge, if_neg (by rw [List.isEmpty_iff]; exact List.ne_nil_of_mem hc), he]
  rfl

theorem charge_of_readable (hne : s.calculations ≠ []) (hread : ∀ c ∈ s.calculations, c.unreadable o = false)
    (h : ∀ x ∈ s.steps o, Representable x) :
    ∃ d, s.charge o = .ok d ∧ NearestCent (s.exactPrice o) d.value := by
  have hall : s.evaluated o = s.calculations := by
    refine List.takeWhile_eq_self_iff.mpr ?_
    intro c hc
    rw [hread c hc]
    rfl
  rw [steps, hall, List.forall_mem_append] at h
  obtain ⟨hsteps, htotals⟩ := h
  obtain ⟨d, hd, hv⟩ := foldlM_addAmount_exact .zero hread
    (fun c hc x hx => hsteps x (List.mem_flatMap.mpr ⟨c, hc, hx⟩)) (by rwa [value_zero])
  rw [value_zero, zero_add] at hv
  refine ⟨d.roundToCents, ?_, ?_⟩
  · rw [charge, if_neg (by rwa [List.isEmpty_iff]), hd]
    rfl
  · rw [exactPrice, ← hv]
    exact nearestCent_roundToCents d

/-- A charge fails if and only if data that it needs is no decimal, and is the cent nearest to the exact price, as long
    as what it is computed from is representable. -/
theorem charge_exact (s : Service) (o : Order) (hne : s.calculations ≠ [])
    (h : ∀ x ∈ s.steps o, Representable x) :
    ((∃ e, s.charge o = .error e) ↔ ∃ c ∈ s.calculations, c.unreadable o = true) ∧
      ((∀ c ∈ s.calculations, c.unreadable o = false) → ∃ d, s.charge o = .ok d ∧
        NearestCent (s.exactPrice o) d.value ∧ 0 ≤ d.value ∧ |d.value - s.exactPrice o| ≤ 1 / 200) := by
  constructor
  · constructor
    · rintro ⟨e, he⟩
      by_contra hnone
      have hread : ∀ c ∈ s.calculations, c.unreadable o = false := by
        intro c hc
        exact Bool.eq_false_iff.mpr fun hun => hnone ⟨c, hc, hun⟩
      obtain ⟨d, hd, -⟩ := charge_of_readable hne hread h
      rw [hd] at he
      cases he
    · rintro ⟨c, hc, hun⟩
      exact charge_of_unreadable hc hun
  · intro hread
    obtain ⟨d, hd, hnear⟩ := charge_of_readable hne hread h
    exact ⟨d, hd, hnear, hnear.nonneg exactPrice_nonneg, hnear.nearest⟩

namespace Small

def order (items : Json.Value) : Order :=
  (Order.new "o-1" "c-1" ⟨2024, 5, 6, by decide⟩).withNumber (.numeric .totalItemQty) items

def handling : Service where
  id := "cs-1"
  customerId := "c-1"
  serviceId := "s-1"
  serviceName := "Handling"
  unitPrice := (ofParts false 335 3).getD .zero
  active := true
  ruleGroups := []
  calculations := [⟨.flatFee, (ofParts true 5 0).getD .zero, none, []⟩, ⟨.perUnit, .zero, none, []⟩]

end Small

/-- Three items come to 1.005 and are charged 1.01; items that are no number are not charged. -/
theorem charge_exact_handling :
    (∃ d, Small.handling.charge (Small.order (.ofNat 3)) = .ok d ∧ d.value = 101 / 100 ∧
      NearestCent (Small.handling.exactPrice (Small.order (.ofNat 3))) d.value) ∧
      ∃ e, Small.handling.charge (Small.order (.string "three")) = .error e := by
  have hcents : Representable (1005 / 1000) := ⟨⟨false, 1005, 3, by decide, by decide⟩, by decide +kernel⟩
  constructor
  · have hsteps : ∀ x ∈ Small.handling.steps (Small.order (.ofNat 3)), Representable x := by
      rw [show Small.handling.steps (Small.order (.ofNat 3)) = [1005 / 1000, 0, 0, 1005 / 1000] by decide +kernel]
      simp [hcents, representable_zero]
    obtain ⟨d, hd, hnear, -⟩ := (charge_exact _ _ (by decide) hsteps).2 (by decide +kernel)
    refine ⟨d, hd, ?_, hnear⟩
    have hvalue : (Small.handling.charge (Small.order (.ofNat 3))).toOption.map value = some (101 / 100) := by
      decide +kernel
    rw [hd] at hvalue
    exact Option.some.inj hvalue
  · have hsteps : ∀ x ∈ Small.handling.steps (Small.order (.string "three")), Representable x := by
      rw [show Small.handling.steps (Small.order (.string "three")) = [0, 0] by decide +kernel]
      simp [representable_zero]
    exact (charge_exact _ _ (by decide) hsteps).1.mpr (by decide +kernel)

end Service

end Tariff
