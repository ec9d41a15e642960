/-
  Tariff.Billing — billing runs.

  Every order in scope is tried against every selected service. Charges that cannot be
  computed are skipped and noted, and so are order costs that a report cannot take. The
  orders may be split into consecutive chunks, each billed into a report of its own; the
  reports are merged in order and all totals rebuilt from the lines. Skipped charges are
  counted whether or not they are listed.
  - `flatten_chunks`: the chunks are the orders, in order.
-/
import Tariff.Order
import Tariff.Date
import Tariff.Catalog
import Tariff.Charge
import Tariff.Report
import Tariff.Rule.Matching
import Tariff.Settings

namespace Tariff

/-! ## Requests -/

/-- One customer, from one date to another, both included. -/
structure Request where
  customerId : String
  start : Date
  stop : Date
  /-- The services to bill, if not all of them. -/
  included : Option (List String)
  deriving DecidableEq, Repr

namespace Request

def covers (r : Request) (o : Order) : Bool :=
  o.customerId == r.customerId && r.start ≤ o.date && o.date ≤ r.stop

def read (v : Json.Value) : Json.Reading Request := do
  let src ← Json.Source.of "ReportRequest"
    ["customer_id", "start_date", "end_date", "included_customer_service_ids"] 3 v
  let customerId := src.slot "customer_id" Json.readText
  let start := src.slot "start_date" Date.read
  let stop := src.slot "end_date" Date.read
  let included := src.slot "included_customer_service_ids" (Json.readOption (Json.readList Json.readText))
  src.check [customerId.fault, start.fault, stop.fault, included.fault] false
  return {
    customerId := ← customerId.required
    start := ← start.required
    stop := ← stop.required
    included := ← included.getD none }

end Request

/-- A charge that was left out, of one service or of a whole order. -/
structure Skipped where
  orderId : String
  serviceId : Option String
  reason : ChargeError
  deriving Repr

namespace Billing

/-! ## One order -/

structure Tally where
  cost : OrderCost
  skipped : List Skipped
  deriving Repr

/-- Charges a service. A charge of zero adds no line. -/
def charged (o : Order) (s : Service) : EStateM ChargeError OrderCost Unit := do
  let amount ← ofExcept (s.charge o)
  if .zero < amount then OrderCost.push ⟨s.serviceId, s.serviceName, amount⟩

def tryService (o : Order) (t : Tally) (s : Service) : Tally :=
  if s.appliesTo o then
    match (charged o s).run t.cost with
    | .ok () cost => ⟨cost, t.skipped⟩
    | .error e cost => ⟨cost, t.skipped ++ [⟨o.id, some s.serviceId, e⟩]⟩
  else t

/-- The cost of an order, if a service is charged for it, and what was skipped. -/
def evaluate (services : List Service) (o : Order) : Option OrderCost × List Skipped :=
  let t := services.foldl (tryService o) ⟨.new o.id (o.text .referenceNumber) o.date, []⟩
  (if t.cost.isEmpty then none else some t.cost, t.skipped)

/-! ## A chunk of orders -/

structure Chunk where
  report : Report
  skipped : List Skipped
  evaluated : Nat
  cancelled : Bool
  deriving Repr

def Chunk.new (r : Request) : Chunk := ⟨.new r.customerId r.start r.stop, [], 0, false⟩

def rejected (x : Report.Rejected) : Skipped := ⟨x.orderId, none, x.error⟩

def Chunk.bill (services : List Service) (c : Chunk) (o : Order) : Chunk :=
  let (cost, skipped) := evaluate services o
  let (report, refused) := c.report.merge cost.toList
  { c with report, skipped := c.skipped ++ skipped ++ refused.map rejected, evaluated := c.evaluated + 1 }

/-- Bills some orders one after the other, or none of them if the run is cancelled. -/
def evaluateChunk (r : Request) (services : List Service) (cancelled : Bool) (orders : List Order) : Chunk :=
  if cancelled && !orders.isEmpty then { Chunk.new r with cancelled }
  else orders.foldl (Chunk.bill services) (Chunk.new r)

/-- The orders in pieces of `size`, the last of which may be shorter. -/
def piecesOf {α : Type} (size : Nat) : Nat → List α → List (List α)
  | _, [] => []
  | 0, _ => []
  | n + 1, xs => xs.take size :: piecesOf size n (xs.drop size)

/-- As many pieces of one size as there are workers, at most. -/
def chunks {α : Type} (workers : Nat) (xs : List α) : List (List α) :=
  piecesOf ((xs.length + workers - 1) / workers) workers xs

theorem flatten_piecesOf {α : Type} (size n : Nat) (xs : List α) (h : xs.length ≤ size * n) :
    (piecesOf size n xs).flatten = xs := by
  induction n generalizing xs with
  | zero =>
    cases xs with
    | nil => rfl
    | cons x xs => simp at h
  | succ n ih =>
    cases xs with
    | nil => rfl
    | cons x xs =>
      have hd : ((x :: xs).drop size).length ≤ size * n := by
        rw [List.length_drop, Nat.mul_succ] at *
        omega
      simp only [piecesOf, List.flatten_cons, ih _ hd, List.take_append_drop]

theorem flatten_chunks {α : Type} {workers : Nat} (h : 1 ≤ workers) (xs : List α) :
    (chunks workers xs).flatten = xs := by
  refine flatten_piecesOf _ _ _ ?_
  have hm := Nat.mod_lt (xs.length + workers - 1) (show workers > 0 by omega)
  have hd := Nat.div_add_mod' (xs.length + workers - 1) workers
  omega

/-! ## A run -/

/-- What a run comes to before diagnostics are dropped. -/
structure Outcome where
  report : Report
  skipped : List Skipped
  evaluated : Nat
  cancelled : Bool
  deriving Repr

def absorb (total : Chunk) (c : Chunk) : Chunk :=
  let (report, refused) := total.report.merge c.report.orders
  { report
    skipped := total.skipped ++ c.skipped ++ refused.map rejected
    evaluated := total.evaluated + c.evaluated
    cancelled := total.cancelled || c.cancelled }

/-- Merges the chunks of a run and rebuilds the totals. If that fails, the run goes on with what it left. -/
def combine (r : Request) (chunks : List Chunk) : Chunk :=
  let c := chunks.foldl absorb (Chunk.new r)
  { c with report := match Report.recompute.run c.report with | .ok () r | .error _ r => r }

def billPieces (r : Request) (services : List Service) (cancelled : Bool) (pieces : List (List Order)) : Outcome :=
  let c := combine r (pieces.map (evaluateChunk r services cancelled))
  let metadata := { c.report.metadata with
    selected := services.map (·.id)
    partialRun := c.cancelled }
  ⟨{ c.report with metadata }, c.skipped, c.evaluated, c.cancelled⟩

/-- Bills the orders that the request covers, on a machine with `available` workers. -/
def run (catalog : Catalog) (settings : Settings) (available : Nat) (r : Request) (orders : List Order)
    (cancelled : Bool) : Outcome :=
  let services := catalog.select r.customerId r.included
  let inScope := orders.filter r.covers
  let workers := settings.workersFor available inScope.length
  billPieces r services cancelled (if services.isEmpty then [] else chunks workers inScope)

def Outcome.listed (o : Outcome) (settings : Settings) : List Skipped :=
  if settings.collectDiagnostics then o.skipped else []

end Billing

/-! ## Counters -/

structure Metrics where
  reportsGenerated : Nat
  ordersEvaluated : Nat
  chargesSkipped : Nat
  serviceCostsRecorded : Nat
  /-- How many runs were timed. -/
  durations : Nat
  deriving DecidableEq, Repr

namespace Metrics

def zero : Metrics := ⟨0, 0, 0, 0, 0⟩

def record (m : Metrics) (o : Billing.Outcome) : Metrics where
  reportsGenerated := m.reportsGenerated + 1
  ordersEvaluated := m.ordersEvaluated + o.evaluated
  chargesSkipped := m.chargesSkipped + o.skipped.length
  serviceCostsRecorded := m.serviceCostsRecorded + (o.report.orders.flatMap (·.lines)).length
  durations := m.durations + 1

/-- The counters under the names they are published with, in the order of the names. -/
def samples (m : Metrics) : List (String × Nat) :=
  [("orderbill_charges_skipped_total", m.chargesSkipped),
    ("orderbill_orders_evaluated_total", m.ordersEvaluated),
    ("orderbill_report_duration_seconds_count", m.durations),
    ("orderbill_reports_generated_total", m.reportsGenerated),
    ("orderbill_service_costs_recorded_total", m.serviceCostsRecorded)]

def sampleLines (m : Metrics) : List String := m.samples.map fun (name, n) => name ++ " " ++ toString n

end Metrics

/-! ## Failures -/

inductive Failure where
  | configuration (f : Fault)
  | calculation (e : ChargeError)
  | storage (reason : String)
  deriving Repr

namespace Failure

def message : Failure → String
  | .configuration f => "Configuration error: " ++ f.message
  | .calculation e => "Calculation error: " ++ e.message
  | .storage reason => "Storage error: " ++ reason

def noSuchFile : Failure := .storage "No such file or directory (os error 2)"

end Failure

def Catalog.ofFile (content : Option String) : Except Failure Catalog :=
  match content with
  | none => .error .noSuchFile
  | some s => (Catalog.ofText s).mapError .configuration

end Tariff
