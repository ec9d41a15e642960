/-
  Tariff.Catalog — the services on offer.

  A catalog holds accepted services only. It is read service by service: the names first,
  then the data; when all are read, each is validated.
  - A place is a root and the steps from there, each a field or an item of a list. A fault
    names the element that has the defect.
  - `Service.faults` lists everything that is wrong with a service, in the order of its
    elements; a service is accepted if the list is empty, and else refused for the first.
  - Unknown names are looked for in the JSON data, so that they are reported where they
    stand. Data of a shape that has no names is passed over: reading it will tell.
-/
import Tariff.Service
import Tariff.Sku
import Tariff.Json.Written

namespace Tariff

/-! ## Faults -/

inductive Step where
  | field (name : String)
  | item (index : Nat)
  deriving DecidableEq, Repr

def Step.text : Step → String
  | .field name => "." ++ name
  | .item index => "[" ++ toString index ++ "]"

structure Place where
  root : String
  steps : List Step
  deriving DecidableEq, Repr

namespace Place

def text (p : Place) : String := p.root ++ String.join (p.steps.map (·.text))

def field (p : Place) (name : String) : Place := { p with steps := p.steps ++ [.field name] }

def item (p : Place) (index : Nat) : Place := { p with steps := p.steps ++ [.item index] }

end Place

inductive Malformation where
  | notJson
  | noServiceList
  | noRule
  /-- An object that has neither what a condition nor what a group has. -/
  | ambiguousRule
  | unreadable (e : Json.ReadError)
  deriving Repr

def Malformation.message : Malformation → String
  | .notJson => "not a JSON document"
  | .noServiceList => "expected a list of services"
  | .noRule => "expected a condition or a rule group object"
  | .ambiguousRule => "neither a condition (no `field`) nor a rule group (no `conditions`)"
  | .unreadable e => e.message

inductive Defect where
  | malformed (m : Malformation)
  | missingField (name : String)
  | negative (name : String) (value : Decimal)
  | invertedRange (min max : Decimal)
  | missingTiers (kind : CalculationKind)
  | emptyAllowList (kind : CalculationKind)
  | emptyValues (operator : Operator)
  | unknownOperator (name : String)
  | unknownField (name : String)
  | unknownKind (name : String)
  deriving Repr

def Defect.message : Defect → String
  | .malformed m => "malformed configuration: " ++ m.message
  | .missingField name => name ++ " is required"
  | .negative name value => name ++ " must not be negative (got " ++ value.text ++ ")"
  | .invertedRange min max => "tier range min " ++ min.text ++ " is greater than max " ++ max.text
  | .missingTiers kind => "calculation type " ++ kind.name ++ " requires a tier configuration"
  | .emptyAllowList kind => "calculation type " ++ kind.name ++ " requires at least one SKU"
  | .emptyValues operator => "operator " ++ operator.name ++ " requires at least one value"
  | .unknownOperator name => Operator.unknownMessage name
  | .unknownField name => Field.unknownMessage name
  | .unknownKind name => "unknown calculation type: " ++ name

structure Fault where
  place : Place
  defect : Defect
  deriving Repr

def Fault.message (f : Fault) : String := f.place.text ++ ": " ++ f.defect.message

def Fault.first : List Fault → Except Fault Unit
  | [] => .ok ()
  | f :: _ => .error f

/-! ## Validation -/

/-- A price, value, bound or multiplier must not be below zero. -/
def negativeFaults (p : Place) (name : String) (value : Decimal) : List Fault :=
  if value < .zero then [⟨p, .negative name value⟩] else []

/-- A text must have a character that is not blank. -/
def blankFaults (p : Place) (name : String) (s : String) : List Fault :=
  if Text.trim s = "" then [⟨p, .missingField name⟩] else []

def TierRange.faults (p : Place) (r : TierRange) : List Fault :=
  negativeFaults p "min" r.min ++ negativeFaults p "max" r.max ++ negativeFaults p "multiplier" r.multiplier ++
    if r.max < r.min then [⟨p, .invertedRange r.min r.max⟩] else []

def TierTable.faults (p : Place) (t : TierTable) : List Fault :=
  (if t.ranges.isEmpty then [⟨p, .missingField "ranges"⟩] else []) ++
    t.ranges.zipIdx.flatMap fun (r, i) => r.faults ((p.field "ranges").item i)

def Calculation.faults (p : Place) (c : Calculation) : List Fault :=
  negativeFaults p "value" c.value ++
    (match c.tiers with
      | some tiers => tiers.faults (p.field "tier_config")
      | none => if c.kind.requiresTiers then [⟨p, .missingTiers c.kind⟩] else []) ++
    if c.kind = .productSpecific && (Sku.setOf c.skus).isEmpty then [⟨p, .emptyAllowList c.kind⟩] else []

mutual

/-- A condition must have a value, at any depth of a group. -/
def Rule.faults (p : Place) : Rule → List Fault
  | .condition c => if c.values.isEmpty then [⟨p, .emptyValues c.operator⟩] else []
  | .group _ rules => Rule.memberFaults (p.field "conditions") 0 rules

def Rule.memberFaults (p : Place) (i : Nat) : List Rule → List Fault
  | [] => []
  | r :: rest => Rule.faults (p.item i) r ++ Rule.memberFaults p (i + 1) rest

end

def RuleGroup.faults (p : Place) (g : RuleGroup) : List Fault := g.toRule.faults p

namespace Service

def faults (p : Place) (s : Service) : List Fault :=
  blankFaults p "id" s.id ++ blankFaults p "service_id" s.serviceId ++
    negativeFaults p "unit_price" s.unitPrice ++
    (s.calculations.zipIdx.flatMap fun (c, i) => c.faults ((p.field "calculations").item i)) ++
    s.ruleGroups.zipIdx.flatMap fun (g, i) => g.faults ((p.field "rule_groups").item i)

def validate (p : Place) (s : Service) : Except Fault Unit := Fault.first (s.faults p)

end Service

/-! ## Unknown names -/

namespace Catalog

/-- The items of a list that is a member of an object, with the places they stand at. -/
def itemsAt (p : Place) (name : String) (v : Json.Value) : List (Json.Value × Place) :=
  match v.get? name >>= (·.array?) with
  | some items => items.zipIdx.map fun (item, i) => (item, (p.field name).item i)
  | none => []

/-- A text under `name` that `known` does not accept. -/
def unknownNames (known : String → Bool) (name : String) (v : Json.Value) : List String :=
  match v.get? name >>= (·.string?) with
  | some s => if known s then [] else [s]
  | none => []

def kindFaults (p : Place) (calculation : Json.Value) : List Fault :=
  (unknownNames (fun s => (CalculationKind.names.lookup s).isSome) "type" calculation).map fun s =>
    ⟨p, .unknownKind s⟩

def conditionFaults (p : Place) (condition : Json.Value) : List Fault :=
  ((unknownNames (fun s => (Field.ofText? s).isSome) "field" condition).map fun s => ⟨p, .unknownField s⟩) ++
    (unknownNames (fun s => (Operator.ofText? s).isSome) "operator" condition).map fun s => ⟨p, .unknownOperator s⟩

mutual

/-- A member of a group must be an object, with a `field` or with something of a group. -/
def ruleFaults (p : Place) : Json.Value → List Fault
  | .object members =>
    if (members.lookup "field").isSome then conditionFaults p (.object members)
    else if (members.lookup "conditions").isNone && (members.lookup "logic_operator").isNone then
      [⟨p, .malformed .ambiguousRule⟩]
    else memberFaults p members
  | _ => [⟨p, .malformed .noRule⟩]

def memberFaults (p : Place) : List (String × Json.Value) → List Fault
  | [] => []
  | (name, v) :: rest => if name = "conditions" then listFaults (p.field name) v else memberFaults p rest

def listFaults (p : Place) : Json.Value → List Fault
  | .array items => itemFaults p 0 items
  | _ => []

def itemFaults (p : Place) (i : Nat) : List Json.Value → List Fault
  | [] => []
  | v :: rest => ruleFaults (p.item i) v ++ itemFaults p (i + 1) rest

end

/-- A group that belongs to a service is one in any case. -/
def groupFaults (p : Place) : Json.Value → List Fault
  | .object members => memberFaults p members
  | _ => []

def nameFaults (p : Place) (service : Json.Value) : List Fault :=
  ((itemsAt p "calculations" service).flatMap fun (c, p) => kindFaults p c) ++
    (itemsAt p "rule_groups" service).flatMap fun (g, p) => groupFaults p g

end Catalog

/-! ## Catalogs -/

structure Catalog where
  services : List Service
  deriving Repr

namespace Catalog

def placeOf (index : Nat) : Place := ⟨"services", [.item index]⟩

def ofServices (services : List Service) : Except Fault Catalog := do
  Fault.first (services.zipIdx.flatMap fun (s, i) => s.faults (placeOf i))
  return ⟨services⟩

/-- One service, its names checked. -/
def readService (index : Nat) (v : Json.Value) : Except Fault Service := do
  Fault.first (nameFaults (placeOf index) v)
  (Service.read v).mapError fun e => ⟨placeOf index, .malformed (.unreadable e)⟩

def ofValues (values : List Json.Value) : Except Fault Catalog := do
  ofServices (← values.zipIdx.mapM fun (v, i) => readService i v)

/-- The catalog in a document: a list of services, or an object with one under `services`. -/
def ofJson (document : Json.Value) : Except Fault Catalog :=
  match document with
  | .array values => ofValues values
  | .object members =>
    match members.lookup "services" with
    | some (.array values) => ofValues values
    | some _ => .error ⟨⟨"services", []⟩, .malformed .noServiceList⟩
    | none => .error ⟨⟨"$", []⟩, .missingField "services"⟩
  | _ => .error ⟨⟨"$", []⟩, .malformed .noServiceList⟩

def ofText (s : String) : Except Fault Catalog :=
  match Json.read? s with
  | some document => ofJson document
  | none => .error ⟨⟨"$", []⟩, .malformed .notJson⟩

def size (c : Catalog) : Nat := c.services.length

/-- The active services of a customer, in catalog order; only those with an id in
    `included`, if that is given. -/
def select (c : Catalog) (customerId : String) (included : Option (List String)) : List Service :=
  c.services.filter fun s =>
    s.customerId == customerId && s.active && included.all (·.contains s.id)

end Catalog

end Tariff
