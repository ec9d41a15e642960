/-
  Tariff.Command — the command line program, without its effects.

  An input document has services and orders in one JSON text, which is read as it is
  written. A member that is no part of a document or an order is passed over, whatever its
  value; a part that is written twice makes the document unreadable. Services are kept as
  data, for the catalog to read.

  `run` says what an invocation prints, which file it writes and how it ends, given what
  its input file holds. Whether a file can be written is for the caller to find out.
-/
import Tariff.Order
import Tariff.Json.Written
import Tariff.Command.Arguments
import Tariff.Billing
import Tariff.Report

namespace Tariff

/-! ## Input documents -/

structure Document where
  services : List Json.Value
  orders : List Order

namespace Document

/-- The members of an object that are parts of a record, unless one is there twice or a
    name has no content. -/
def keep (parts : List String) : List (Option String × Json.Written) → Option (List (String × Json.Written))
  | [] => some []
  | (none, _) :: _ => none
  | (some name, w) :: rest => do
    let kept ← keep parts rest
    if !parts.contains name then some kept
    else if kept.any (·.1 == name) then none
    else some ((name, w) :: kept)

/-- A document or an order, reduced to its parts. -/
def reduce (parts : List String) : Json.Written → Option Json.Written
  | .object members => (keep parts members).map fun ms => .object (ms.map fun (name, w) => (some name, w))
  | w => some w

def items? : Json.Written → Option (List Json.Written)
  | .array items => some items
  | _ => none

/-- The two lists of a document; one that is missing is empty. -/
def lists : Json.Written → Option (List Json.Written × List Json.Written)
  | .object members => do
    let list (name : String) := (members.lookup (some name)).elim (some []) items?
    return (← list "services", ← list "orders")
  | .array [] => some ([], [])
  | .array [services] => do return (← items? services, [])
  | .array [services, orders] => do return (← items? services, ← items? orders)
  | _ => none

/-- The data of an item of a list that is itself inside the document. -/
def itemValue? (w : Json.Written) : Option Json.Value :=
  if w.depth + 2 ≤ Json.maxDepth then w.value? else none

def readOrder (w : Json.Written) : Option Order := do
  let v ← itemValue? (← reduce Order.fieldNames w)
  (Order.read v).toOption

def ofText (s : String) : Option Document := do
  let w ← Json.Written.ofText s
  let (services, orders) ← lists (← reduce ["services", "orders"] w)
  return { services := ← services.mapM itemValue?, orders := ← orders.mapM readOrder }

end Document

/-! ## Invocations -/

namespace Command

inductive Failure where
  | emptyRange (start stop : Date)
  | unreadable (path : String)
  | unparseable (path : String)
  | configuration (f : Fault)
  | unwritable (path : String)
  deriving Repr

def Failure.message : Failure → String
  | .emptyRange start stop => "--from " ++ start.text ++ " is after --to " ++ stop.text
  | .unreadable path => "failed to read " ++ path
  | .unparseable path => "failed to parse " ++ path
  | .configuration f => f.message
  | .unwritable path => "failed to write " ++ path

structure Output where
  text : String
  /-- The file to write the text to, if it is not to be printed. -/
  path : Option String
  /-- The lines of metrics to print. -/
  metrics : List String
  deriving DecidableEq, Repr

structure World where
  environment : List (String × String)
  /-- The workers that the machine has. -/
  available : Nat
  now : Instant

def readDocument (path : String) (content : Option String) : Except Failure Document :=
  match content with
  | none => .error (.unreadable path)
  | some s => (Document.ofText s).elim (.error (.unparseable path)) .ok

def ReportArguments.request (a : ReportArguments) : Request := ⟨a.customer, a.start, a.stop, a.services⟩

/-- The settings of the environment; the number of workers may be given. -/
def ReportArguments.settings (a : ReportArguments) (w : World) : Settings :=
  let s := Settings.ofEnvironment (.default w.available) w.environment
  { s with maxWorkers := a.workers.getD s.maxWorkers }

def render (format : Format) (r : Report) : String :=
  match format with
  | .json => r.json
  | .csv => r.csv

def report (w : World) (a : ReportArguments) (content : Option String) : Except Failure Output := do
  if a.stop < a.start then throw (.emptyRange a.start a.stop)
  let document ← readDocument a.input content
  let catalog ← (Catalog.ofValues document.services).mapError .configuration
  let outcome := Billing.run catalog (a.settings w) w.available a.request document.orders false
  let metadata := { outcome.report.metadata with generatedAt := w.now }
  return {
    text := render a.format { outcome.report with metadata }
    path := a.output
    metrics := if a.metrics then (Metrics.zero.record outcome).sampleLines else [] }

def validate (input : String) (content : Option String) : Except Failure Output := do
  let document ← readDocument input content
  let catalog ← (Catalog.ofValues document.services).mapError .configuration
  return {
    text := input ++ ": " ++ toString catalog.size ++ " services valid, " ++ toString document.orders.length ++
      " orders\n"
    path := none
    metrics := [] }

def versionText : String := "orderbill 0.1.0\n"

def usageText : String :=
  "Usage: orderbill <COMMAND>\n\n" ++
  "  report --input <FILE> --customer <ID> --from <DATE> --to <DATE>\n" ++
  "         [--services <ID,...>] [--format json|csv] [--output <FILE>] [--workers <N>] [--metrics]\n" ++
  "  validate --input <FILE>\n"

def Invocation.input? : Invocation → Option String
  | .report a => some a.input
  | .validate input => some input
  | .help | .version => none

def run (w : World) (i : Invocation) (content : Option String) : Except Failure Output :=
  match i with
  | .report a => report w a content
  | .validate input => validate input content
  | .help => .ok ⟨usageText, none, []⟩
  | .version => .ok ⟨versionText, none, []⟩

def usageExit : Nat := 2

def failureExit : Nat := 1

end Command

end Tariff
