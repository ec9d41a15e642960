/-
  Tariff.Rule — conditions on orders and their combinations.

  A condition compares one field with a list of values. A group combines conditions and
  further groups, of which all or any have to hold.

  In JSON data a member of a group is a condition if it is an object with a `field`, and
  else a group. Conditions and groups have no fields but their own; a group may leave out
  both of its.
-/
import Tariff.Order
import Tariff.Text
import Tariff.Json.Reading

namespace Tariff

inductive Operator where
  | eq
  | ne
  | gt
  | lt
  | ge
  | le
  | between
  | isIn
  | notIn
  | contains
  | notContains
  | startsWith
  | endsWith
  deriving DecidableEq, Repr

namespace Operator

def all : List Operator :=
  [.eq, .ne, .gt, .lt, .ge, .le, .between, .isIn, .notIn, .contains, .notContains, .startsWith, .endsWith]

def name : Operator → String
  | .eq => "eq"
  | .ne => "ne"
  | .gt => "gt"
  | .lt => "lt"
  | .ge => "ge"
  | .le => "le"
  | .between => "between"
  | .isIn => "in"
  | .notIn => "ni"
  | .contains => "contains"
  | .notContains => "ncontains"
  | .startsWith => "startswith"
  | .endsWith => "endswith"

def aliases : List (String × Operator) :=
  [("==", .eq), ("neq", .ne), ("!=", .ne), (">", .gt), ("<", .lt), ("gte", .ge), (">=", .ge),
    ("lte", .le), ("<=", .le), ("not_in", .notIn), ("not_contains", .notContains)]

def names : List (String × Operator) := all.map (fun op => (op.name, op)) ++ aliases

/-- The operator of a name, blanks around it and the case of ASCII letters aside. -/
def ofText? (s : String) : Option Operator := names.lookup (Text.asciiLower (Text.trim s))

def unknownMessage (s : String) : String := "unknown operator: " ++ s

end Operator

structure Condition where
  field : Field
  operator : Operator
  values : List String
  deriving DecidableEq, Repr

/-- How many members of a group have to hold. -/
inductive Quantifier where
  | all
  | any
  deriving DecidableEq, Repr

inductive Rule where
  | condition (c : Condition)
  | group (quantifier : Quantifier) (rules : List Rule)
  deriving Repr

structure RuleGroup where
  quantifier : Quantifier
  rules : List Rule
  deriving Repr

namespace Quantifier

def name : Quantifier → String
  | .all => "AND"
  | .any => "OR"

def names : List (String × Quantifier) := [("AND", .all), ("and", .all), ("OR", .any), ("or", .any)]

end Quantifier

def RuleGroup.toRule (g : RuleGroup) : Rule := .group g.quantifier g.rules

mutual

def Rule.leaves : Rule → List Condition
  | .condition c => [c]
  | .group _ rules => leavesOf rules

def Rule.leavesOf : List Rule → List Condition
  | [] => []
  | r :: rest => r.leaves ++ leavesOf rest

end

def RuleGroup.leaves (g : RuleGroup) : List Condition := Rule.leavesOf g.rules

/-! ## In JSON data -/

def Field.read : Json.Value → Json.Reading Field
  | .string s => (Field.ofText? s).elim (.error (.refused (Field.unknownMessage s))) .ok
  | v => .error (.wrongType v "a string")

def Operator.read : Json.Value → Json.Reading Operator
  | .string s => (Operator.ofText? s).elim (.error (.refused (Operator.unknownMessage s))) .ok
  | v => .error (.wrongType v "a string")

def Condition.read (v : Json.Value) : Json.Reading Condition := do
  let src ← Json.Source.of "RuleCondition" ["field", "operator", "values"] 3 v
  let field := src.slot "field" Field.read
  let operator := src.slot "operator" Operator.read
  let values := src.slot "values" (Json.readList Json.readText)
  src.check [field.fault, operator.fault, values.fault] true
  return { field := ← field.required, operator := ← operator.required, values := ← values.required }

def Condition.toJson (c : Condition) : Json.Value :=
  .object [("field", .string c.field.name), ("operator", .string c.operator.name),
    ("values", .array (c.values.map .string))]

namespace RuleGroup

/-- A group whose members, if it has any, were read already. -/
def readWith (rules : Option (Json.Reading (List Rule))) (v : Json.Value) : Json.Reading RuleGroup := do
  let src ← Json.Source.of "RuleGroup" ["logic_operator", "conditions"] 0 v
  let quantifier := src.slot "logic_operator" (Json.readVariant Quantifier.names)
  let rules : Json.Slot (List Rule) := ⟨"conditions", rules⟩
  src.check [quantifier.fault, rules.fault] true
  return { quantifier := ← quantifier.getD .all, rules := ← rules.getD [] }

end RuleGroup

namespace Rule

mutual

def read : Json.Value → Json.Reading Rule
  | .object members =>
    if (members.lookup "field").isSome then (Condition.read (.object members)).map .condition
    else (RuleGroup.readWith (readMember members) (.object members)).map (·.toRule)
  | .array items => (RuleGroup.readWith (readSecond items) (.array items)).map (·.toRule)
  | v => (RuleGroup.readWith none v).map (·.toRule)

def readList : Json.Value → Json.Reading (List Rule)
  | .array items => readItems items
  | v => .error (.wrongType v "a sequence")

def readItems : List Json.Value → Json.Reading (List Rule)
  | [] => .ok []
  | v :: rest => do
    let r ← read v
    let rs ← readItems rest
    return r :: rs

def readMember : List (String × Json.Value) → Option (Json.Reading (List Rule))
  | [] => none
  | (name, v) :: rest => if name = "conditions" then some (readList v) else readMember rest

def readSecond : List Json.Value → Option (Json.Reading (List Rule))
  | _ :: v :: _ => some (readList v)
  | _ => none

end

mutual

def toJson : Rule → Json.Value
  | .condition c => c.toJson
  | .group quantifier rules =>
    .object [("logic_operator", .string quantifier.name), ("conditions", .array (toJsonItems rules))]

def toJsonItems : List Rule → List Json.Value
  | [] => []
  | r :: rest => toJson r :: toJsonItems rest

end

end Rule

namespace RuleGroup

/-- A group on its own, which is a group even if it looks like a condition. -/
def read (v : Json.Value) : Json.Reading RuleGroup :=
  match v with
  | .object members => readWith (Rule.readMember members) v
  | .array items => readWith (Rule.readSecond items) v
  | _ => readWith none v

def toJson (g : RuleGroup) : Json.Value := g.toRule.toJson

end RuleGroup

end Tariff
