/-
  Tariff.Report — billing reports.

  A report keeps one total three times: as such, per service, and per order. `add` enters
  one more cost, `recompute` rebuilds every total from the lines. Both change the report in
  place, and where they fail the report stays as far as they had changed it: neither has
  written anything by then (`add_error`, `recompute_error`).

  A report is exported as comma-separated values: one row for each line of each order, a
  blank line, and a summary of the services with the total at its end. A field is quoted if
  it has a comma, a quote or a line break in it, and a quote in a quoted field is doubled.
  Amounts have two places; more are cut off. In JSON data they are binary64 numbers.
-/
import Tariff.Date
import Tariff.Table
import Tariff.Charge
import Tariff.Decimal

namespace Tariff

structure ServiceCost where
  serviceId : String
  serviceName : String
  amount : Decimal
  deriving DecidableEq, Repr

structure OrderCost where
  orderId : String
  reference : Option String
  date : Date
  lines : List ServiceCost
  total : Decimal
  deriving DecidableEq, Repr

namespace OrderCost

def new (orderId : String) (reference : Option String) (date : Date) : OrderCost :=
  ⟨orderId, reference, date, [], .zero⟩

/-- Adds a line, unless the total would overflow. -/
def push (line : ServiceCost) : EStateM ChargeError OrderCost Unit := do
  let total ← ofExcept (Amount.orderTotal.orOverflow ((← get).total.add line.amount))
  modify fun c => { c with total }
  modify fun c => { c with lines := c.lines ++ [line] }

/-- The sum of the lines, whatever the total says; `none` if it overflows. -/
def lineSum (c : OrderCost) : Option Decimal := Decimal.sum (c.lines.map (·.amount))

def isEmpty (c : OrderCost) : Bool := c.lines.isEmpty

/-- The cost with its total put right. A total of the right value stays as it is. -/
def corrected (c : OrderCost) (sum : Decimal) : OrderCost :=
  if c.total.same sum then c else { c with total := sum }

end OrderCost

structure ServiceTotal where
  serviceName : String
  amount : Decimal
  deriving DecidableEq, Repr

structure Metadata where
  /-- The services that were billed, by their assignments to the customer. -/
  selected : List String
  generatedAt : Instant
  /-- The report was cancelled before every order was evaluated. -/
  partialRun : Bool
  deriving DecidableEq, Repr

structure Report where
  customerId : String
  start : Date
  stop : Date
  total : Decimal
  serviceTotals : Table ServiceTotal
  orders : List OrderCost
  metadata : Metadata
  deriving DecidableEq, Repr

namespace Report

def new (customerId : String) (start stop : Date) : Report :=
  ⟨customerId, start, stop, .zero, .empty, [], ⟨[], .epoch, false⟩⟩

/-! ## The three totals -/

def serviceSum (r : Report) : Option Decimal := Decimal.sum (r.serviceTotals.values.map (·.amount))

def orderSum (r : Report) : Option Decimal := Decimal.sum (r.orders.map (·.total))

/-- The three totals agree. The order totals are not summed if the first two differ; `none`
    if a sum overflows. -/
def consistent (r : Report) : Option Bool := do
  let byService ← r.serviceSum
  if r.total.same byService then return byService.same (← r.orderSum) else return false

/-! ## Adding order costs -/

/-- The amount of a service so far: what is staged for it, or else what the report has. -/
def staged? (r : Report) (staged : Table Decimal) (serviceId : String) : Decimal :=
  (staged.get? serviceId).getD (((r.serviceTotals.get? serviceId).map (·.amount)).getD .zero)

def stage (r : Report) (staged : Table Decimal) (line : ServiceCost) : Except ChargeError (Table Decimal) := do
  let amount ← Amount.serviceTotal.orOverflow ((r.staged? staged line.serviceId).add line.amount)
  return staged.put line.serviceId amount

/-- The report total with the staged amounts: services without one first. -/
def stagedTotal (r : Report) (staged : Table Decimal) : Except ChargeError Decimal :=
  let untouched := r.serviceTotals.entries.filter fun (id, _) => !staged.contains id
  Amount.reportTotal.orOverflow (Decimal.sum (untouched.map (·.2.amount) ++ staged.values))

/-- Takes the staged amount of a line's service over. A service keeps its first name. -/
def settle (staged : Table Decimal) (totals : Table ServiceTotal) (line : ServiceCost) : Table ServiceTotal :=
  let amount := (staged.get? line.serviceId).getD .zero
  totals.put line.serviceId (match totals.get? line.serviceId with
    | some t => { t with amount }
    | none => ⟨line.serviceName, amount⟩)

/-- Adds the cost of an order, unless a total would overflow. -/
def add (cost : OrderCost) : EStateM ChargeError Report Unit := do
  let staged ← cost.lines.foldlM (fun staged line => do ofExcept ((← get).stage staged line)) .empty
  let total ← ofExcept ((← get).stagedTotal staged)
  -- nothing fails from here on
  cost.lines.forM fun line => modify fun r => { r with serviceTotals := settle staged r.serviceTotals line }
  modify fun r => { r with orders := r.orders ++ [cost] }
  modify fun r => { r with total }

structure Rejected where
  orderId : String
  error : ChargeError
  deriving Repr

/-- Goes on with the report as `add` left it, refused or not. -/
def addOrReject (state : Report × List Rejected) (cost : OrderCost) : Report × List Rejected :=
  match (add cost).run state.1 with
  | .ok () r => (r, state.2)
  | .error e r => (r, state.2 ++ [⟨cost.orderId, e⟩])

def merge (r : Report) (costs : List OrderCost) : Report × List Rejected :=
  costs.foldl addOrReject (r, [])

/-! ## Rebuilding the totals -/

/-- Adds a line to rebuilt service totals. The first line of a service names it. -/
def tally (totals : Table ServiceTotal) (line : ServiceCost) : Except ChargeError (Table ServiceTotal) :=
  match totals.get? line.serviceId with
  | some t => do
    let amount ← Amount.serviceTotal.orOverflow (t.amount.add line.amount)
    return totals.put line.serviceId { t with amount }
  | none => .ok (totals.put line.serviceId ⟨line.serviceName, line.amount⟩)

def tallyOrder (totals : Table ServiceTotal) (cost : OrderCost) :
    Except ChargeError (Decimal × Table ServiceTotal) := do
  let sum ← Amount.orderTotal.orOverflow cost.lineSum
  return (sum, ← cost.lines.foldlM tally totals)

def tallyOrders (totals : Table ServiceTotal) : List OrderCost →
    Except ChargeError (List Decimal × Table ServiceTotal)
  | [] => .ok ([], totals)
  | cost :: rest => do
    let (sum, totals) ← tallyOrder totals cost
    let (sums, totals) ← tallyOrders totals rest
    return (sum :: sums, totals)

/-- Rebuilds every total from the lines, unless one overflows. -/
def recompute : EStateM ChargeError Report Unit := do
  let (sums, serviceTotals) ← ofExcept (tallyOrders .empty (← get).orders)
  let total ← ofExcept (Amount.reportTotal.orOverflow (Decimal.sum (serviceTotals.values.map (·.amount))))
  -- nothing fails from here on
  modify fun r => { r with orders := r.orders.zipWith OrderCost.corrected sums }
  modify fun r => { r with serviceTotals }
  modify fun r => { r with total }

end Report

/-! ## Comma-separated values -/

namespace Csv

def isSpecial (c : Char) : Bool := c == ',' || c == '"' || c == '\n' || c == '\r'

def quote (cs : List Char) : List Char :=
  '"' :: (cs.flatMap fun c => if c = '"' then ['"', '"'] else [c]) ++ ['"']

def field (s : String) : List Char :=
  if s.toList.any isSpecial then quote s.toList else s.toList

def fields : List String → List Char
  | [] => []
  | [s] => field s
  | s :: rest => field s ++ ',' :: fields rest

def row (columns : List String) : List Char := fields columns ++ ['\n']

end Csv

namespace Report

def lineHeader : List String :=
  ["order_id", "reference_number", "order_date", "service_id", "service_name", "amount"]

def summaryHeader : List String := ["service_id", "service_name", "amount"]

def orderRows (cost : OrderCost) : List (List String) :=
  cost.lines.map fun line =>
    [cost.orderId, cost.reference.getD "", cost.date.text, line.serviceId, line.serviceName, line.amount.centsText]

def lineRows (r : Report) : List (List String) := lineHeader :: r.orders.flatMap orderRows

def summaryRows (r : Report) : List (List String) :=
  [["SUMMARY"], summaryHeader] ++
    (r.serviceTotals.entries.map fun (id, t) => [id, t.serviceName, t.amount.centsText]) ++
    [["TOTAL", "", r.total.centsText]]

def csv (r : Report) : String :=
  String.ofList (r.lineRows.flatMap Csv.row ++ '\n' :: r.summaryRows.flatMap Csv.row)

end Report

/-! ## In JSON data -/

def Decimal.toJson (d : Decimal) : Json.Value := .ofBinary64? d.toBinary64

namespace ServiceCost

def read (v : Json.Value) : Json.Reading ServiceCost := do
  let src ← Json.Source.of "ServiceCost" ["service_id", "service_name", "amount"] 3 v
  let serviceId := src.slot "service_id" Json.readText
  let serviceName := src.slot "service_name" Json.readText
  let amount := src.slot "amount" Json.readDecimal
  src.check [serviceId.fault, serviceName.fault, amount.fault] false
  return {
    serviceId := ← serviceId.required
    serviceName := ← serviceName.required
    amount := ← amount.required }

def toJson (c : ServiceCost) : Json.Value :=
  .object [("service_id", .string c.serviceId), ("service_name", .string c.serviceName), ("amount", c.amount.toJson)]

end ServiceCost

namespace OrderCost

def read (v : Json.Value) : Json.Reading OrderCost := do
  let src ← Json.Source.of "OrderCost"
    ["order_id", "reference_number", "order_date", "service_costs", "total_amount"] 5 v
  let orderId := src.slot "order_id" Json.readText
  let reference := src.slot "reference_number" (Json.readOption Json.readText)
  let date := src.slot "order_date" Date.read
  let lines := src.slot "service_costs" (Json.readList ServiceCost.read)
  let total := src.slot "total_amount" Json.readDecimal
  src.check [orderId.fault, reference.fault, date.fault, lines.fault, total.fault] false
  return {
    orderId := ← orderId.required
    reference := ← reference.getD none
    date := ← date.required
    lines := ← lines.required
    total := ← total.required }

def toJson (c : OrderCost) : Json.Value :=
  .object [("order_id", .string c.orderId), ("reference_number", .ofText? c.reference),
    ("order_date", .string c.date.text), ("service_costs", .array (c.lines.map (·.toJson))),
    ("total_amount", c.total.toJson)]

end OrderCost

namespace ServiceTotal

def read (v : Json.Value) : Json.Reading ServiceTotal := do
  let src ← Json.Source.of "ServiceTotal" ["service_name", "amount"] 2 v
  let serviceName := src.slot "service_name" Json.readText
  let amount := src.slot "amount" Json.readDecimal
  src.check [serviceName.fault, amount.fault] false
  return { serviceName := ← serviceName.required, amount := ← amount.required }

def toJson (t : ServiceTotal) : Json.Value :=
  .object [("service_name", .string t.serviceName), ("amount", t.amount.toJson)]

def readTable : Json.Value → Json.Reading (Table ServiceTotal)
  | .object members => do
    return Table.ofList (← members.mapM fun (id, v) => return (id, ← read v))
  | v => .error (.wrongType v "a map")

end ServiceTotal

namespace Metadata

def read (v : Json.Value) : Json.Reading Metadata := do
  let src ← Json.Source.of "ReportMetadata" ["selected_services", "generated_at", "partial"] 2 v
  let selected := src.slot "selected_services" (Json.readList Json.readText)
  let generatedAt := src.slot "generated_at" Instant.read
  let partialRun := src.slot "partial" Json.readFlag
  src.check [selected.fault, generatedAt.fault, partialRun.fault] false
  return {
    selected := ← selected.required
    generatedAt := ← generatedAt.required
    partialRun := ← partialRun.getD false }

def toJson (m : Metadata) : Json.Value :=
  .object [("selected_services", .array (m.selected.map .string)), ("generated_at", .string m.generatedAt.text),
    ("partial", .bool m.partialRun)]

end Metadata

namespace Report

def read (v : Json.Value) : Json.Reading Report := do
  let src ← Json.Source.of "BillingReport"
    ["customer_id", "start_date", "end_date", "total_amount", "service_totals", "orders", "metadata"] 7 v
  let customerId := src.slot "customer_id" Json.readText
  let start := src.slot "start_date" Date.read
  let stop := src.slot "end_date" Date.read
  let total := src.slot "total_amount" Json.readDecimal
  let serviceTotals := src.slot "service_totals" ServiceTotal.readTable
  let orders := src.slot "orders" (Json.readList OrderCost.read)
  let metadata := src.slot "metadata" Metadata.read
  src.check [customerId.fault, start.fault, stop.fault, total.fault, serviceTotals.fault, orders.fault,
    metadata.fault] false
  return {
    customerId := ← customerId.required
    start := ← start.required
    stop := ← stop.required
    total := ← total.required
    serviceTotals := ← serviceTotals.required
    orders := ← orders.required
    metadata := ← metadata.required }

def toJson (r : Report) : Json.Value :=
  .object [("customer_id", .string r.customerId), ("start_date", .string r.start.text),
    ("end_date", .string r.stop.text), ("total_amount", r.total.toJson),
    ("service_totals", .object (r.serviceTotals.entries.map fun (id, t) => (id, t.toJson))),
    ("orders", .array (r.orders.map (·.toJson))), ("metadata", r.metadata.toJson)]

def json (r : Report) : String := r.toJson.pretty

end Report

end Tariff
