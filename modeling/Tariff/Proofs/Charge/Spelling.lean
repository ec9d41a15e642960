/-
  Tariff.Proofs.Charge.Spelling — the spelling of a SKU does not change a price.

  Two orders that differ in the spelling of the SKUs in their lists only, and two services
  that differ in how their lists of SKUs are written, give the same totals, the same tier
  and the same charge, or fail with the same error.
  - `Order.Respelled.rawAmount`: one calculation.
  - `Order.Respelled.charge`: all of a service, one after the other.
  - `spelling_invariant`
-/
import Tariff.Charge
import Tariff.Proofs.Sku.Spelling

namespace Tariff

/-! ## Orders and services -/

/-- Orders with the same numbers, and with payloads that differ in the spelling of SKUs only. -/
structure Order.Respelled (o o' : Order) : Prop where
  number : ∀ f, o.number? f = o'.number? f
  skus : Sku.Ledger.PayloadRespelled o.skus o'.skus

structure TierTable.Respelled (t t' : TierTable) : Prop where
  ranges : t.ranges = t'.ranges
  excludedSkus : Sku.SameSkus t.excludedSkus t'.excludedSkus

structure Calculation.Respelled (c c' : Calculation) : Prop where
  kind : c.kind = c'.kind
  value : c.value = c'.value
  tiers : Option.Rel TierTable.Respelled c.tiers c'.tiers
  skus : Sku.SameSkus c.skus c'.skus

structure Service.Respelled (s s' : Service) : Prop where
  unitPrice : s.unitPrice = s'.unitPrice
  calculations : List.Forall₂ Calculation.Respelled s.calculations s'.calculations

/-! ## What is computed from an order -/

namespace Order.Respelled

variable {o o' : Order} (h : o.Respelled o')

include h

theorem unspelled : o.ledger.unspelled = o'.ledger.unspelled := Sku.Ledger.unspelled_of_respelled h.skus

theorem decimal (f : NumericField) : o.decimal f = o'.decimal f := by
  rw [Order.decimal, Order.decimal, h.number]

theorem quantities : o.ledger.quantities = o'.ledger.quantities := Sku.Ledger.quantities_congr h.unspelled

theorem serialized : o.ledger.serialized = o'.ledger.serialized := by
  rw [Sku.Ledger.serialized, Sku.Ledger.serialized, h.quantities]

theorem quantityOf (set : Table Unit) : o.ledger.quantityOf set = o'.ledger.quantityOf set :=
  Sku.Ledger.quantityOf_congr h.unspelled set

theorem tierMultiplier {t t' : TierTable} (ht : t.Respelled t') : t.multiplier o.ledger = t'.multiplier o'.ledger := by
  rw [TierTable.multiplier, TierTable.multiplier, TierTable.summary, TierTable.summary, ht.ranges,
    Sku.setOf_of_sameSkus ht.excludedSkus, Sku.Ledger.caseSummary_congr h.unspelled]

/-! ## Charges -/

theorem multiplier {c c' : Calculation} (hc : c.Respelled c') : c.multiplier o = c'.multiplier o' := by
  have htiers := hc.tiers
  unfold Calculation.multiplier
  generalize c.tiers = tiers, c'.tiers = tiers' at htiers
  cases htiers with
  | some ht => exact h.tierMultiplier ht
  | none => rfl

theorem rawAmount {c c' : Calculation} (hc : c.Respelled c') (p : Decimal) : c.rawAmount p o = c'.rawAmount p o' := by
  have hproduct : c.product = c'.product := by
    funext a b
    rw [Calculation.product, Calculation.product, hc.kind]
  have hhundredth : c.hundredth = c'.hundredth := by
    funext d
    rw [Calculation.hundredth, Calculation.hundredth, hc.kind]
  unfold Calculation.rawAmount
  rw [hc.kind, hc.value, hproduct, hhundredth, h.multiplier hc, Sku.setOf_of_sameSkus hc.skus, h.quantityOf]
  simp only [h.decimal]

theorem addAmount {s s' : Service} (hprice : s.unitPrice = s'.unitPrice) {c c' : Calculation} (hc : c.Respelled c')
    (sum : Decimal) : s.addAmount o sum c = s'.addAmount o' sum c' := by
  rw [Service.addAmount, Service.addAmount, Calculation.amount, Calculation.amount, h.rawAmount hc, hprice, hc.kind]

theorem foldlM_addAmount {s s' : Service} (hprice : s.unitPrice = s'.unitPrice) {cs cs' : List Calculation}
    (hcs : List.Forall₂ Calculation.Respelled cs cs') (sum : Decimal) :
    cs.foldlM (s.addAmount o) sum = cs'.foldlM (s'.addAmount o') sum := by
  induction hcs generalizing sum with
  | nil => rfl
  | cons hc _ ih =>
    rw [List.foldlM_cons, List.foldlM_cons, h.addAmount hprice hc]
    exact congrArg _ (funext ih)

theorem charge {s s' : Service} (hs : s.Respelled s') : s.charge o = s'.charge o' := by
  have hempty : s.calculations.isEmpty = s'.calculations.isEmpty := by
    rw [Bool.eq_iff_iff, List.isEmpty_iff_length_eq_zero, List.isEmpty_iff_length_eq_zero, hs.calculations.length_eq]
  rw [Service.charge, Service.charge, hempty, hs.unitPrice, h.foldlM_addAmount hs.unitPrice hs.calculations]

end Order.Respelled

namespace Order

/-- The spelling of a SKU changes neither its canonical form nor a set of SKUs, a total, a tier or a charge. -/
theorem spelling_invariant :
    (∀ s s', Sku.Respelled s s' → Sku.canonical s = Sku.canonical s') ∧
      (∀ skus skus', Sku.SameSkus skus skus' → Sku.setOf skus = Sku.setOf skus') ∧
      ∀ o o' : Order, o.Respelled o' →
        o.ledger.quantities = o'.ledger.quantities ∧ o.ledger.serialized = o'.ledger.serialized ∧
        (∀ set, o.ledger.quantityOf set = o'.ledger.quantityOf set) ∧
        (∀ t t' : TierTable, t.Respelled t' → t.multiplier o.ledger = t'.multiplier o'.ledger) ∧
        ∀ s s' : Service, s.Respelled s' → s.charge o = s'.charge o' := by
  refine ⟨?_, ?_, ?_⟩
  · intro s s' h
    exact Sku.canonical_of_respelled h
  · intro skus skus' h
    exact Sku.setOf_of_sameSkus h
  · intro o o' h
    refine ⟨h.quantities, h.serialized, h.quantityOf, ?_, ?_⟩
    · intro t t' ht
      exact h.tierMultiplier ht
    · intro s s' hs
      exact h.charge hs

namespace Small

def line (sku : String) (quantity : Nat) : Json.Value := .object [("sku", .string sku), ("quantity", .ofNat quantity)]

def listed (first second : String) : Order :=
  (Order.new "o-1" "c-1" ⟨2024, 6, 11, by decide⟩).withSkus (.array [line first 3, line second 2])

/-- 0.5 for each item of some SKUs, and once for up to nine cases of the SKUs that are not excluded. -/
def picking (skus excluded : List String) : Service where
  id := "cs-1"
  customerId := "c-1"
  serviceId := "s-1"
  serviceName := "Picking"
  unitPrice := (Decimal.ofParts false 5 1).getD .zero
  active := true
  ruleGroups := []
  calculations :=
    [⟨.productSpecific, .zero, none, skus⟩,
      ⟨.caseBasedTier, .zero,
        some ⟨[⟨.zero, (Decimal.ofNat 9).getD .zero, (Decimal.ofNat 1).getD .zero⟩], excluded⟩, []⟩]

end Small

/-- Three items and one tier come to 2, however the SKUs are written. -/
theorem spelling_invariant_listed :
    Sku.canonical "a-1" = Sku.canonical " A1" ∧ Sku.setOf ["A1"] = Sku.setOf ["a 1", "A-1"] ∧
      (Small.listed "a-1" "b").Respelled (Small.listed " A1" "B-") ∧
      (Small.picking ["A1"] ["b"]).Respelled (Small.picking ["a 1", "A-1"] ["B"]) ∧
      (Small.picking ["A1"] ["b"]).charge (Small.listed "a-1" "b") =
        (Small.picking ["a 1", "A-1"] ["B"]).charge (Small.listed " A1" "B-") ∧
      ((Small.picking ["A1"] ["b"]).charge (Small.listed "a-1" "b")).toOption.map Decimal.value = some 2 := by
  have hspelled : Sku.Respelled "a-1" " A1" := by decide +kernel
  have hsecond : Sku.Respelled "b" "B-" := by decide +kernel
  have hlists : Sku.SameSkus ["A1"] ["a 1", "A-1"] := by decide +kernel
  have horders : (Small.listed "a-1" "b").Respelled (Small.listed " A1" "B-") := by
    have hline : ∀ {s s' : String} (quantity : Nat), Sku.Respelled s s' →
        Sku.Ledger.ItemRespelled (Small.line s quantity) (Small.line s' quantity) := by
      intro s s' quantity h
      refine .respelled rfl rfl h fun name hne => ?_
      simp [Small.line, Json.Value.get?, List.lookup_cons, beq_false_of_ne hne]
    exact ⟨fun _ => rfl, .lists (.array _) (.array _) (.cons (hline 3 hspelled) (.cons (hline 2 hsecond) .nil))⟩
  have hservices : (Small.picking ["A1"] ["b"]).Respelled (Small.picking ["a 1", "A-1"] ["B"]) :=
    ⟨rfl, .cons ⟨rfl, rfl, .none, hlists⟩
      (.cons ⟨rfl, rfl, .some ⟨rfl, by decide +kernel⟩, by decide +kernel⟩ .nil)⟩
  obtain ⟨-, -, -, -, hcharge⟩ := spelling_invariant.2.2 _ _ horders
  exact ⟨spelling_invariant.1 _ _ hspelled, spelling_invariant.2.1 _ _ hlists, horders, hservices,
    hcharge _ _ hservices, by decide +kernel⟩

end Order

end Tariff
