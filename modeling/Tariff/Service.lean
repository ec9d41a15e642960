/-
  Tariff.Service — services that customers are billed for.

  A service has a unit price, the rule groups that decide on which orders it is charged,
  and the calculations that the charge is the sum of. A decimal is written as a text with
  all its places, so that it is read back as it was.
-/
import Tariff.Rule
import Tariff.Decimal

namespace Tariff

inductive CalculationKind where
  /-- The value of the calculation. -/
  | flatFee
  /-- The value, as a percentage of the unit price. -/
  | percentage
  /-- The unit price for each item. -/
  | perUnit
  /-- The unit price for each pound. -/
  | weightBased
  /-- The unit price for each cubic foot. -/
  | volumeBased
  /-- The multiplier of the tier, as a percentage of the unit price. -/
  | tieredPercentage
  /-- The unit price times the multiplier of the tier. -/
  | caseBasedTier
  /-- The unit price for each item of the listed SKUs. -/
  | productSpecific
  deriving DecidableEq, Repr

namespace CalculationKind

def all : List CalculationKind :=
  [.flatFee, .percentage, .perUnit, .weightBased, .volumeBased, .tieredPercentage, .caseBasedTier,
    .productSpecific]

def name : CalculationKind → String
  | .flatFee => "flat_fee"
  | .percentage => "percentage"
  | .perUnit => "per_unit"
  | .weightBased => "weight_based"
  | .volumeBased => "volume_based"
  | .tieredPercentage => "tiered_percentage"
  | .caseBasedTier => "case_based_tier"
  | .productSpecific => "product_specific"

def names : List (String × CalculationKind) := all.map fun k => (k.name, k)

def requiresTiers : CalculationKind → Bool
  | .tieredPercentage | .caseBasedTier => true
  | _ => false

end CalculationKind

/-- The multiplier for case totals from `min` to `max`, both included. -/
structure TierRange where
  min : Decimal
  max : Decimal
  multiplier : Decimal
  deriving DecidableEq, Repr

def TierRange.contains (r : TierRange) (d : Decimal) : Bool := r.min ≤ d && d ≤ r.max

/-- Tiers in the order in which they are tried, and the SKUs that are no cases. -/
structure TierTable where
  ranges : List TierRange
  excludedSkus : List String
  deriving DecidableEq, Repr

structure Calculation where
  kind : CalculationKind
  value : Decimal
  tiers : Option TierTable
  skus : List String
  deriving DecidableEq, Repr

structure Service where
  /-- The assignment of the service to the customer. -/
  id : String
  customerId : String
  /-- The service itself, under which reports add up its charges. -/
  serviceId : String
  serviceName : String
  unitPrice : Decimal
  active : Bool
  ruleGroups : List RuleGroup
  calculations : List Calculation
  deriving Repr

/-! ## In JSON data -/

namespace CalculationKind

def read : Json.Value → Json.Reading CalculationKind := Json.readVariant names

end CalculationKind

namespace TierRange

def read (v : Json.Value) : Json.Reading TierRange := do
  let src ← Json.Source.of "TierRange" ["min", "max", "multiplier"] 3 v
  let min := src.slot "min" Json.readDecimal
  let max := src.slot "max" Json.readDecimal
  let multiplier := src.slot "multiplier" Json.readDecimal
  src.check [min.fault, max.fault, multiplier.fault] false
  return { min := ← min.required, max := ← max.required, multiplier := ← multiplier.required }

def toJson (r : TierRange) : Json.Value :=
  .object [("min", .string r.min.text), ("max", .string r.max.text), ("multiplier", .string r.multiplier.text)]

end TierRange

namespace TierTable

def read (v : Json.Value) : Json.Reading TierTable := do
  let src ← Json.Source.of "TierConfiguration" ["ranges", "excluded_skus"] 1 v
  let ranges := src.slot "ranges" (Json.readList TierRange.read)
  let excludedSkus := src.slot "excluded_skus" (Json.readList Json.readText)
  src.check [ranges.fault, excludedSkus.fault] false
  return { ranges := ← ranges.required, excludedSkus := ← excludedSkus.getD [] }

def toJson (t : TierTable) : Json.Value :=
  .object [("ranges", .array (t.ranges.map (·.toJson))), ("excluded_skus", .array (t.excludedSkus.map .string))]

end TierTable

namespace Calculation

def read (v : Json.Value) : Json.Reading Calculation := do
  let src ← Json.Source.of "Calculation" ["type", "value", "tier_config", "skus"] 1 v
  let kind := src.slot "type" CalculationKind.read
  let value := src.slot "value" Json.readDecimal
  let tiers := src.slot "tier_config" (Json.readOption TierTable.read)
  let skus := src.slot "skus" (Json.readList Json.readText)
  src.check [kind.fault, value.fault, tiers.fault, skus.fault] false
  return {
    kind := ← kind.required
    value := ← value.getD .zero
    tiers := ← tiers.getD none
    skus := ← skus.getD [] }

def toJson (c : Calculation) : Json.Value :=
  .object [("type", .string c.kind.name), ("value", .string c.value.text),
    ("tier_config", (c.tiers.map (·.toJson)).getD .null), ("skus", .array (c.skus.map .string))]

end Calculation

namespace Service

def read (v : Json.Value) : Json.Reading Service := do
  let src ← Json.Source.of "CustomerService"
    ["id", "customer_id", "service_id", "service_name", "unit_price", "active", "rule_groups", "calculations"] 5 v
  let id := src.slot "id" Json.readText
  let customerId := src.slot "customer_id" Json.readText
  let serviceId := src.slot "service_id" Json.readText
  let serviceName := src.slot "service_name" Json.readText
  let unitPrice := src.slot "unit_price" Json.readDecimal
  let active := src.slot "active" Json.readFlag
  let ruleGroups := src.slot "rule_groups" (Json.readList RuleGroup.read)
  let calculations := src.slot "calculations" (Json.readList Calculation.read)
  src.check [id.fault, customerId.fault, serviceId.fault, serviceName.fault, unitPrice.fault, active.fault,
    ruleGroups.fault, calculations.fault] false
  return {
    id := ← id.required
    customerId := ← customerId.required
    serviceId := ← serviceId.required
    serviceName := ← serviceName.required
    unitPrice := ← unitPrice.required
    active := ← active.getD true
    ruleGroups := ← ruleGroups.getD []
    calculations := ← calculations.getD [] }

def toJson (s : Service) : Json.Value :=
  .object [("id", .string s.id), ("customer_id", .string s.customerId), ("service_id", .string s.serviceId),
    ("service_name", .string s.serviceName), ("unit_price", .string s.unitPrice.text), ("active", .bool s.active),
    ("rule_groups", .array (s.ruleGroups.map (·.toJson))),
    ("calculations", .array (s.calculations.map (·.toJson)))]

end Service

end Tariff
