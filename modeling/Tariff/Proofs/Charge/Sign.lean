/-
  Tariff.Proofs.Charge.Sign — a validated service has no negative amounts of its own.

  An amount is kept from being negative at the very end, where a mistake before it would
  not show. A service without faults does not need this: its price, values and multipliers
  are not below zero, the quantities in a ledger are above it, and no operation on the way
  makes a sign. What remains is a field of the order with a negative number in it.
  - `zero_le_quantityOf` / `TierTable.zero_le_multiplier`: what is taken from a ledger.
  - `zero_le_rawAmount`: one calculation.
  - `validated_amounts`
-/
import Tariff.Proofs.Catalog.Places
import Tariff.Proofs.Charge
import Tariff.Proofs.Decimal.Sign
import Tariff.Proofs.Json.Reading
import Tariff.Proofs.Sku.Lines

namespace Tariff

open Decimal

/-! ## Data of an order -/

namespace Order

def Negative (o : Order) (f : NumericField) : Prop := ∃ v ∈ o.number? f, ∃ d ∈ decimalOf v, d < .zero

theorem zero_le_decimal {o : Order} {f : NumericField} (h : ¬o.Negative f) {d : Decimal} (hd : o.decimal f = .ok d) :
    .zero ≤ d := by
  unfold decimal at hd
  cases hv : o.number? f with
  | none =>
    rw [hv] at hd
    cases hd
    exact zero_le_zero
  | some v =>
    rw [hv] at hd
    cases hread : decimalOf v with
    | none => simp [hread] at hd
    | some d' =>
      simp only [hread, Option.elim_some, Except.ok.injEq] at hd
      subst hd
      exact not_lt_iff.mp fun hneg => h ⟨v, hv, d', hread, hneg⟩

theorem proper_of_mem_ledger (o : Order) : ∀ e ∈ o.ledger.entries, e.Proper Sku.Quantity.Positive := by
  unfold ledger
  cases o.skus with
  | none =>
    intro e he
    cases he
  | some v => exact Sku.Ledger.positive_ofJson v

end Order

/-! ## Totals of a ledger -/

namespace Sku

theorem Quantity.zero_le_toDecimal {q : Quantity} (h : q.Positive) {d : Decimal} (hd : q.toDecimal = some d) :
    .zero ≤ d := by
  cases q with
  | whole n => exact zero_le_ofNat hd
  | fractional x => exact zero_le_ofBinary64 (Binary64.value_pos_iff.mp h).1 hd
  | unbounded => cases hd

theorem Ledger.zero_le_quantityOf {l : Ledger} (h : ∀ e ∈ l.entries, e.Proper Quantity.Positive) {allowed : Table Unit}
    {d : Decimal} (hd : l.quantityOf allowed = .ok d) : .zero ≤ d := by
  refine zero_le_sum ?_ (Amount.orOverflow_eq_ok_iff.mp hd)
  intro a ha
  obtain ⟨e, he, hquantity⟩ := List.mem_filterMap.mp ha
  exact Quantity.zero_le_toDecimal (h e (List.mem_of_mem_filter he)).quantity hquantity

end Sku

/-- A multiplier is that of one of the ranges. -/
theorem TierTable.mem_of_multiplier {t : TierTable} {l : Sku.Ledger} {m : Decimal} (h : t.multiplier l = .ok (some m)) :
    ∃ r ∈ t.ranges, r.multiplier = m := by
  obtain ⟨cases, -, hresolve⟩ := Json.exists_of_map_eq_ok h
  unfold resolve at hresolve
  split_ifs at hresolve
  obtain ⟨r, hr, hm⟩ := Option.map_eq_some_iff.mp hresolve
  exact ⟨r, List.mem_of_find?_eq_some hr, hm⟩

theorem TierTable.zero_le_multiplier {t : TierTable} (ht : t.WellFormed) {l : Sku.Ledger} {m : Decimal}
    (h : t.multiplier l = .ok (some m)) : .zero ≤ m := by
  obtain ⟨r, hr, rfl⟩ := mem_of_multiplier h
  exact (ht.ranges r hr).multiplier

/-! ## One calculation -/

namespace Calculation

variable {c : Calculation} {o : Order} {p d : Decimal}

theorem zero_le_product {a : Decimal} (hp : .zero ≤ p) (ha : .zero ≤ a) (h : c.product p a = .ok d) : .zero ≤ d :=
  zero_le_mul hp ha (Amount.orOverflow_eq_ok_iff.mp h)

theorem zero_le_percentage {a : Decimal} (hp : .zero ≤ p) (ha : .zero ≤ a)
    (h : (c.product p a >>= c.hundredth) = .ok d) : .zero ≤ d := by
  obtain ⟨b, hb, hd⟩ := Json.bind_eq_ok_iff.mp h
  exact zero_le_hundredth (zero_le_product hp ha hb) (Amount.orOverflow_eq_ok_iff.mp hd)

/-- A calculation in order that looks up a tier has a table to look it up in. -/
theorem multiplier_of_requiresTiers (h : c.WellFormed) (hkind : c.kind.requiresTiers = true) (o : Order) :
    ∃ t, c.tiers = some t ∧ c.multiplier o = t.multiplier o.ledger := by
  obtain ⟨t, ht⟩ := Option.ne_none_iff_exists'.mp (h.tiers hkind)
  exact ⟨t, ht, by rw [multiplier, ht]⟩

theorem zero_le_multiplier (h : c.WellFormed) {m : Decimal} (hm : c.multiplier o = .ok (some m)) : .zero ≤ m := by
  unfold multiplier at hm
  cases ht : c.tiers with
  | none =>
    rw [ht] at hm
    cases hm
  | some t =>
    rw [ht] at hm
    exact TierTable.zero_le_multiplier (h.table t ht) hm

/-- The amount of a calculation in order is below zero only if the field that it reads is. -/
theorem zero_le_rawAmount (h : c.WellFormed) (hp : .zero ≤ p) (hfield : ∀ f, c.kind.field? = some f → ¬o.Negative f)
    (hd : c.rawAmount p o = .ok d) : .zero ≤ d := by
  have hread : ∀ f, c.kind.field? = some f → (o.decimal f >>= c.product p) = .ok d → .zero ≤ d := by
    intro f hf hd
    obtain ⟨a, ha, hd⟩ := Json.bind_eq_ok_iff.mp hd
    exact zero_le_product hp (Order.zero_le_decimal (hfield f hf) ha) hd
  unfold rawAmount at hd
  cases hk : c.kind <;> simp only [hk] at hd hread
  case flatFee =>
    cases hd
    exact h.value
  case percentage => exact zero_le_percentage hp h.value hd
  case perUnit => exact hread _ rfl hd
  case weightBased => exact hread _ rfl hd
  case volumeBased => exact hread _ rfl hd
  case caseBasedTier =>
    obtain ⟨m, hm, hd⟩ := Json.bind_eq_ok_iff.mp hd
    cases m with
    | none =>
      cases hd
      exact zero_le_zero
    | some m => exact zero_le_product hp (zero_le_multiplier h hm) hd
  case tieredPercentage =>
    obtain ⟨m, hm, hd⟩ := Json.bind_eq_ok_iff.mp hd
    cases m with
    | none =>
      cases hd
      exact zero_le_zero
    | some m => exact zero_le_percentage hp (zero_le_multiplier h hm) hd
  case productSpecific =>
    obtain ⟨q, hq, hd⟩ := Json.bind_eq_ok_iff.mp hd
    exact zero_le_product hp (Sku.Ledger.zero_le_quantityOf o.proper_of_mem_ledger hq) hd

theorem amount_eq_rawAmount (h : c.WellFormed) (hp : .zero ≤ p) (hfield : ∀ f, c.kind.field? = some f → ¬o.Negative f) :
    c.amount p o = c.rawAmount p o := by
  rw [amount]
  cases hd : c.rawAmount p o with
  | error e => rfl
  | ok d =>
    show Except.ok d.clampZero = _
    rw [clampZero_of_zero_le (zero_le_rawAmount h hp hfield hd)]

end Calculation

/-! ## All calculations of a service -/

namespace Service

/-- Of a validated service, an amount is negative only if it is made from a field with a negative number. Keeping
    amounts and the price from being negative changes nothing else, and a tier is looked up in a table. -/
theorem validated_amounts (p : Place) (s : Service) (o : Order) (h : s.validate p = .ok ()) :
    s.unitPrice.clampZero = s.unitPrice ∧
      ∀ c ∈ s.calculations,
        (∀ d, c.rawAmount s.unitPrice o = .ok d → d < .zero → ∃ f, c.kind.field? = some f ∧ o.Negative f) ∧
        (c.kind.field? = none → c.amount s.unitPrice o = c.rawAmount s.unitPrice o) ∧
        (c.kind.requiresTiers = true → ∃ t, c.tiers = some t ∧ c.multiplier o = t.multiplier o.ledger) := by
  have hs : s.WellFormed := (validate_verdict p s).1.mp h
  refine ⟨clampZero_of_zero_le hs.unitPrice, ?_⟩
  intro c hc
  have hwf := hs.calculations c hc
  refine ⟨?_, ?_, ?_⟩
  · intro d hd hneg
    by_contra hnone
    have hfield : ∀ f, c.kind.field? = some f → ¬o.Negative f := fun f hf hnegative => hnone ⟨f, hf, hnegative⟩
    exact not_lt_iff.mpr (Calculation.zero_le_rawAmount hwf hs.unitPrice hfield hd) hneg
  · intro hkind
    exact Calculation.amount_eq_rawAmount hwf hs.unitPrice (by simp [hkind])
  · intro hkind
    exact Calculation.multiplier_of_requiresTiers hwf hkind o

namespace Small

/-- 0.335 for each item, and once more for up to nine cases. -/
def packing : Service :=
  { handling with
    calculations :=
      [⟨.perUnit, .zero, none, []⟩,
        ⟨.caseBasedTier, .zero, some ⟨[⟨.zero, (ofNat 9).getD .zero, (ofNat 1).getD .zero⟩], []⟩, []⟩] }

def returned : Order := (order (.number (.whole (-3)))).withSkus (.object [("A", .ofNat 2)])

end Small

/-- The items come to -1.005, for which only the field accounts. The tier is looked up, and its amount is kept. -/
theorem validated_amounts_packing :
    Small.packing.validate ⟨"services", []⟩ = .ok () ∧
      (∃ c ∈ Small.packing.calculations, ∃ d, c.rawAmount Small.packing.unitPrice Small.returned = .ok d ∧ d < .zero ∧
        ∃ f, c.kind.field? = some f ∧ Small.returned.Negative f) ∧
      ∃ c ∈ Small.packing.calculations, c.kind.requiresTiers = true ∧
        c.amount Small.packing.unitPrice Small.returned = c.rawAmount Small.packing.unitPrice Small.returned ∧
        ∃ t, c.tiers = some t ∧ c.multiplier Small.returned = t.multiplier Small.returned.ledger := by
  have hvalid : Small.packing.validate ⟨"services", []⟩ = .ok () := rfl
  have hamounts := (validated_amounts ⟨"services", []⟩ Small.packing Small.returned hvalid).2
  constructor
  · exact hvalid
  constructor
  · refine ⟨_, List.mem_cons_self, _, rfl, by decide +kernel, ?_⟩
    exact (hamounts _ List.mem_cons_self).1 _ rfl (by decide +kernel)
  · obtain ⟨-, hkept, htiers⟩ := hamounts _ (List.mem_cons_of_mem _ List.mem_cons_self)
    exact ⟨_, List.mem_cons_of_mem _ List.mem_cons_self, rfl, hkept rfl, htiers rfl⟩

end Service

end Tariff
