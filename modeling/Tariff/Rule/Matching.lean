/-
  Tariff.Rule.Matching — which orders a rule holds for.

  Nothing here fails: a condition on a field that is missing or no number, without
  values, or with an operator that its field does not have, does not hold.
  - An `all` group without members holds, an `any` group without members does not.
  - A service applies to the orders for which all its groups hold.
-/
import Tariff.Order
import Tariff.Service

namespace Tariff

namespace Condition

/-- The bounds of `between`: the first two values, or the two sides of the first comma of a
    single one. -/
def bounds : List String → Option (Binary64 × Binary64)
  | [] => none
  | [single] => do
    let (low, high) ← Text.splitFirst ',' single.toList
    return (← numberOfText (String.ofList low), ← numberOfText (String.ofList high))
  | low :: high :: _ => do return (← numberOfText low, ← numberOfText high)

def compareWith (operator : Operator) (actual expected : Binary64) : Bool :=
  match operator with
  | .eq => actual.same expected
  | .ne => !actual.same expected
  | .gt => expected < actual
  | .lt => actual < expected
  | .ge => expected ≤ actual
  | .le => actual ≤ expected
  | _ => false

/-- Comparisons are with the first value. -/
def numberMatches (actual : Binary64) (operator : Operator) (values : List String) : Bool :=
  match operator with
  | .between =>
    match bounds values with
    | some (low, high) => low ≤ actual && actual ≤ high
    | none => false
  | operator =>
    match values.head? >>= numberOfText with
    | some expected => compareWith operator actual expected
    | none => false

/-- One of the values stands in the text, case aside. -/
def containsAny (actual : String) (values : List String) : Bool :=
  values.any fun v => Text.occursIn (Text.lowercase v) (Text.lowercase actual)

/-- Equality is with the first value, the other operators ask for any of them. -/
def textMatches (actual : String) (operator : Operator) (values : List String) : Bool :=
  match operator with
  | .eq => values.head? == some actual
  | .ne => values.head? != some actual
  | .isIn => values.contains actual
  | .notIn => !values.contains actual
  | .contains => containsAny actual values
  | .notContains => !containsAny actual values
  | .startsWith => values.any fun v => v.toList.isPrefixOf actual.toList
  | .endsWith => values.any fun v => v.toList.isSuffixOf actual.toList
  | _ => false

/-- `contains` asks for a SKU, `in` for a part of the quantities as JSON text. -/
def skusMatch (ledger : Sku.Ledger) (operator : Operator) (values : List String) : Bool :=
  match operator with
  | .contains => values.any ledger.mentions
  | .notContains => !values.any ledger.mentions
  | .isIn => values.any fun v => Text.occursIn v.toList ledger.serialized.toList
  | .notIn => !values.any fun v => Text.occursIn v.toList ledger.serialized.toList
  | _ => false

def valueMatches (actual : FieldValue) (operator : Operator) (values : List String) : Bool :=
  match actual with
  | .number x => numberMatches x operator values
  | .text s => textMatches s operator values
  | .skus l => skusMatch l operator values
  | .unparseable | .missing => false

def holds (c : Condition) (o : Order) : Bool :=
  !c.values.isEmpty && valueMatches (o.value c.field) c.operator c.values

/-- A condition whose field and operator are given by name. It does not hold if one of them
    is unknown. -/
def holdsByName (o : Order) (field operator : String) (values : List String) : Bool :=
  match Field.ofText? field, Operator.ofText? operator with
  | some field, some operator => holds { field, operator, values } o
  | _, _ => false

end Condition

mutual

def Rule.holds (o : Order) : Rule → Bool
  | .condition c => c.holds o
  | .group .all rules => Rule.allHold o rules
  | .group .any rules => Rule.anyHolds o rules

def Rule.allHold (o : Order) : List Rule → Bool
  | [] => true
  | r :: rest => r.holds o && Rule.allHold o rest

def Rule.anyHolds (o : Order) : List Rule → Bool
  | [] => false
  | r :: rest => r.holds o || Rule.anyHolds o rest

end

def RuleGroup.holds (g : RuleGroup) (o : Order) : Bool := g.toRule.holds o

def Service.appliesTo (s : Service) (o : Order) : Bool := s.ruleGroups.all (·.holds o)

end Tariff
