/-
  Tariff.Order — orders, as they come from the order store.

  An order has an identity, texts, loosely typed numbers and a SKU payload. A number keeps
  the JSON data it arrived with; whoever needs it decides what it means. Rules name the
  fields of an order by `Field`.

  In JSON data identity and date must be there. The other fields may be missing or null,
  which is the same; the SKU payload and the numbers are kept as they come.
-/
import Tariff.Date
import Tariff.Json
import Tariff.Text
import Tariff.Sku

namespace Tariff

inductive NumericField where
  | weightLb
  | lineItems
  | totalItemQty
  | volumeCuft
  | packages
  deriving DecidableEq, Repr

inductive TextField where
  | referenceNumber
  | shipToName
  | shipToCompany
  | shipToCity
  | shipToState
  | shipToCountry
  | carrier
  | notes
  deriving DecidableEq, Repr

inductive Field where
  | numeric (f : NumericField)
  | text (f : TextField)
  | skus
  deriving DecidableEq, Repr

namespace NumericField

def all : List NumericField := [.weightLb, .lineItems, .totalItemQty, .volumeCuft, .packages]

def name : NumericField → String
  | .weightLb => "weight_lb"
  | .lineItems => "line_items"
  | .totalItemQty => "total_item_qty"
  | .volumeCuft => "volume_cuft"
  | .packages => "packages"

end NumericField

namespace TextField

def all : List TextField :=
  [.referenceNumber, .shipToName, .shipToCompany, .shipToCity, .shipToState, .shipToCountry, .carrier, .notes]

def name : TextField → String
  | .referenceNumber => "reference_number"
  | .shipToName => "ship_to_name"
  | .shipToCompany => "ship_to_company"
  | .shipToCity => "ship_to_city"
  | .shipToState => "ship_to_state"
  | .shipToCountry => "ship_to_country"
  | .carrier => "carrier"
  | .notes => "notes"

end TextField

namespace Field

def all : List Field := NumericField.all.map .numeric ++ TextField.all.map .text ++ [.skus]

def name : Field → String
  | .numeric f => f.name
  | .text f => f.name
  | .skus => "sku_quantity"

/-- The kind of a field, which decides how its value is compared. -/
def kindName : Field → String
  | .numeric _ => "Numeric"
  | .text _ => "Text"
  | .skus => "Sku"

/-- The field of a name, blanks around it aside. -/
def ofText? (s : String) : Option Field := all.find? (·.name == Text.trim s)

def unknownMessage (s : String) : String := "unknown field: " ++ s

end Field

structure Order where
  id : String
  customerId : String
  date : Date
  text : TextField → Option String
  number : NumericField → Option Json.Value
  skus : Option Json.Value

namespace Order

def new (id customerId : String) (date : Date) : Order :=
  ⟨id, customerId, date, fun _ => none, fun _ => none, none⟩

/-- Sets a text. A field that is no text stays as it is. -/
def withText (o : Order) (field : Field) (s : String) : Order :=
  match field with
  | .text f => { o with text := fun g => if g = f then some s else o.text g }
  | _ => o

def withNumber (o : Order) (field : Field) (v : Json.Value) : Order :=
  match field with
  | .numeric f => { o with number := fun g => if g = f then some v else o.number g }
  | _ => o

def withSkus (o : Order) (v : Json.Value) : Order := { o with skus := some v }

/-- The data of a numeric field. Null is no data. -/
def number? (o : Order) (f : NumericField) : Option Json.Value := (o.number f).filter (!·.isNull)

def text? (o : Order) : Field → Option String
  | .text f => o.text f
  | _ => none

def rawNumber? (o : Order) : Field → Option Json.Value
  | .numeric f => o.number? f
  | _ => none

end Order

/-! ## What a field is to a rule -/

inductive FieldValue where
  | number (x : Binary64)
  | text (s : String)
  | skus (l : Sku.Ledger)
  /-- Data in a numeric field that is no number. -/
  | unparseable
  | missing
  deriving DecidableEq, Repr

def numberOfText (s : String) : Option Binary64 := Binary64.ofChars (Text.trim s).toList

def numberOfJson : Json.Value → Option Binary64
  | .number n => n.toBinary64
  | .string s => numberOfText s
  | _ => none

namespace Order

def value (o : Order) : Field → FieldValue
  | .numeric f =>
    match o.number? f with
    | none => .missing
    | some v => (numberOfJson v).elim .unparseable .number
  | .text f => (o.text f).elim .missing .text
  | .skus =>
    match o.skus with
    | none | some .null => .missing
    | some v => .skus (Sku.Ledger.ofJson v)

end Order

/-! ## In JSON data -/

namespace Order

def fieldNames : List String :=
  ["order_id", "customer_id", "order_date"] ++ TextField.all.map (·.name) ++
    NumericField.all.map (·.name) ++ [Field.skus.name]

def read (v : Json.Value) : Json.Reading Order := do
  let src ← Json.Source.of "Order" fieldNames 3 v
  let id := src.slot "order_id" Json.readText
  let customerId := src.slot "customer_id" Json.readText
  let date := src.slot "order_date" Date.read
  let texts := TextField.all.map fun f => (f, src.slot f.name (Json.readOption Json.readText))
  let numbers := NumericField.all.map fun f => (f, src.slot f.name (Json.readOption Json.readAny))
  let skus := src.slot Field.skus.name (Json.readOption Json.readAny)
  src.check ([id.fault, customerId.fault, date.fault] ++ texts.map (·.2.fault) ++
    numbers.map (·.2.fault) ++ [skus.fault]) false
  let texts ← texts.mapM fun (f, s) => return (f, ← s.getD none)
  let numbers ← numbers.mapM fun (f, s) => return (f, ← s.getD none)
  return {
    id := ← id.required
    customerId := ← customerId.required
    date := ← date.required
    text := fun f => (texts.lookup f).join
    number := fun f => (numbers.lookup f).join
    skus := ← skus.getD none }

def toJson (o : Order) : Json.Value :=
  .object ([("order_id", .string o.id), ("customer_id", .string o.customerId),
      ("order_date", .string o.date.text)] ++
    TextField.all.map (fun f => (f.name, .ofText? (o.text f))) ++
    NumericField.all.map (fun f => (f.name, (o.number f).getD .null)) ++
    [(Field.skus.name, o.skus.getD .null)])

end Order

end Tariff
