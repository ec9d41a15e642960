/-
  Tariff.Charge — what a service costs for an order.

  The cases of an order add up to a total, without those of excluded SKUs; the first range
  that holds the total gives the multiplier. An order without cases, or with excluded SKUs
  only, falls into no tier. The totals of a ledger leave out what has no decimal.

  A calculation gives an amount that is not rounded and not below zero. The charge of a
  service is the sum of its calculations, rounded once, to cents; without calculations
  it is the unit price. An amount that cannot be computed concerns one order, and never
  ends a report.
-/
import Tariff.Service
import Tariff.Json
import Tariff.Sku
import Tariff.Decimal
import Tariff.Order

namespace Tariff

/-! ## Amounts that cannot be computed -/

/-- An amount that did not fit a decimal. -/
inductive Amount where
  | calculation (kind : CalculationKind)
  | caseTotal
  | skuQuantityTotal
  | orderTotal
  | serviceTotal
  | reportTotal
  deriving DecidableEq, Repr

def Amount.name : Amount → String
  | .calculation kind => kind.name
  | .caseTotal => "case total"
  | .skuQuantityTotal => "sku quantity total"
  | .orderTotal => "order total"
  | .serviceTotal => "service total"
  | .reportTotal => "report total"

inductive ChargeError where
  /-- Data in a numeric field that is no decimal. -/
  | nonNumeric (field : NumericField) (value : Json.Value)
  | overflow (amount : Amount)
  deriving Repr

namespace ChargeError

def message : ChargeError → String
  | .nonNumeric field value => "order field " ++ field.name ++ " is not numeric: " ++ value.compact
  | .overflow amount => "amount overflow while computing " ++ amount.name

end ChargeError

def Amount.orOverflow (amount : Amount) : Option Decimal → Except ChargeError Decimal
  | some d => .ok d
  | none => .error (.overflow amount)

namespace Amount

variable {amount : Amount} {r : Option Decimal}

@[simp] theorem orOverflow_some (d : Decimal) : amount.orOverflow (some d) = .ok d := rfl

theorem orOverflow_eq_ok_iff {d : Decimal} : amount.orOverflow r = .ok d ↔ r = some d := by
  cases r <;> simp [orOverflow]

theorem orOverflow_eq_error_iff : amount.orOverflow r = .error (.overflow amount) ↔ r = none := by
  cases r <;> simp [orOverflow]

end Amount

/-! ## Totals of a ledger -/

namespace Sku

structure CaseSummary where
  /-- The cases of the SKUs that are not excluded. -/
  totalCases : Decimal
  /-- There are SKUs, and all of them are excluded. -/
  excludedOnly : Bool
  deriving DecidableEq, Repr

namespace Ledger

def counted (l : Ledger) (excluded : Table Unit) : List Entry :=
  l.entries.filter fun e => !excluded.contains e.sku

/-- Cases without a decimal count as none. -/
def caseSummary (l : Ledger) (excluded : Table Unit) : Except ChargeError CaseSummary := do
  let counted := l.counted excluded
  let totalCases ← Amount.caseTotal.orOverflow (Decimal.sum (counted.map fun e => e.cases.toDecimal.getD .zero))
  return { totalCases, excludedOnly := !l.isEmpty && counted.isEmpty }

def quantityOf (l : Ledger) (allowed : Table Unit) : Except ChargeError Decimal :=
  Amount.skuQuantityTotal.orOverflow
    (Decimal.sum ((l.entries.filter fun e => allowed.contains e.sku).filterMap (·.quantity.toDecimal)))

end Ledger

end Sku

/-! ## Tiers -/

namespace TierTable

def summary (t : TierTable) (l : Sku.Ledger) : Except ChargeError Sku.CaseSummary :=
  l.caseSummary (Sku.setOf t.excludedSkus)

/-- The multiplier of the first of the ranges that holds the cases. -/
def resolve (ranges : List TierRange) (cases : Sku.CaseSummary) : Option Decimal :=
  if cases.excludedOnly || cases.totalCases ≤ .zero then none
  else (ranges.find? (·.contains cases.totalCases)).map (·.multiplier)

def multiplier (t : TierTable) (l : Sku.Ledger) : Except ChargeError (Option Decimal) :=
  (t.summary l).map (resolve t.ranges)

end TierTable

/-! ## Charges -/

namespace Order

def ledger (o : Order) : Sku.Ledger := (o.skus.map Sku.Ledger.ofJson).getD .empty

def decimalOf : Json.Value → Option Decimal
  | .number n => Decimal.ofText n.text
  | .string s => Decimal.ofText (Text.trim s)
  | _ => none

/-- A numeric field as a decimal; a field without data is zero. -/
def decimal (o : Order) (f : NumericField) : Except ChargeError Decimal :=
  match o.number? f with
  | none => .ok .zero
  | some v => (decimalOf v).elim (.error (.nonNumeric f v)) .ok

end Order

namespace Calculation

def product (c : Calculation) (a b : Decimal) : Except ChargeError Decimal :=
  (Amount.calculation c.kind).orOverflow (a.mul b)

def hundredth (c : Calculation) (d : Decimal) : Except ChargeError Decimal :=
  (Amount.calculation c.kind).orOverflow d.hundredth

def multiplier (c : Calculation) (o : Order) : Except ChargeError (Option Decimal) :=
  match c.tiers with
  | some tiers => tiers.multiplier o.ledger
  | none => .ok none

/-- The amount before it is kept from being negative. -/
def rawAmount (c : Calculation) (unitPrice : Decimal) (o : Order) : Except ChargeError Decimal :=
  match c.kind with
  | .flatFee => .ok c.value
  | .percentage => do c.hundredth (← c.product unitPrice c.value)
  | .perUnit => do c.product unitPrice (← o.decimal .totalItemQty)
  | .weightBased => do c.product unitPrice (← o.decimal .weightLb)
  | .volumeBased => do c.product unitPrice (← o.decimal .volumeCuft)
  | .caseBasedTier => do
    match ← c.multiplier o with
    | some m => c.product unitPrice m
    | none => return .zero
  | .tieredPercentage => do
    match ← c.multiplier o with
    | some m => c.hundredth (← c.product unitPrice m)
    | none => return .zero
  | .productSpecific => do c.product unitPrice (← o.ledger.quantityOf (Sku.setOf c.skus))

def amount (c : Calculation) (unitPrice : Decimal) (o : Order) : Except ChargeError Decimal :=
  (c.rawAmount unitPrice o).map (·.clampZero)

end Calculation

namespace Service

def addAmount (s : Service) (o : Order) (sum : Decimal) (c : Calculation) : Except ChargeError Decimal := do
  let amount ← c.amount s.unitPrice o
  (Amount.calculation c.kind).orOverflow (sum.add amount)

def charge (s : Service) (o : Order) : Except ChargeError Decimal :=
  if s.calculations.isEmpty then .ok s.unitPrice.clampZero.roundToCents
  else (s.calculations.foldlM (s.addAmount o) .zero).map (·.roundToCents)

end Service

end Tariff
