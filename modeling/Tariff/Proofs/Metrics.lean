/-
  Tariff.Proofs.Metrics — the counters of a calculator account for its runs.

  A calculator bills one request after the other, counts each run and lists what was
  skipped if its settings say so. The counters are fed by the pieces (`evaluated`), by the
  finished report and by the skipped charges before they are dropped.
  - `run_evaluated`: a run evaluates every order in scope once, in whatever pieces.
  - `Calculator.session_counted`: the counters are sums over the answers, and diagnostics
    change neither.
-/
import Tariff.Billing
import Tariff.Proofs.Billing.Pieces

namespace Tariff

/-! ## Evaluated orders -/

namespace Billing

theorem evaluated_foldl_bill (services : List Service) (c : Chunk) (orders : List Order) :
    (orders.foldl (Chunk.bill services) c).evaluated = c.evaluated + orders.length := by
  induction orders generalizing c with
  | nil => rfl
  | cons o rest ih =>
    have hstep : (c.bill services o).evaluated = c.evaluated + 1 := rfl
    rw [List.foldl_cons, ih, hstep, List.length_cons]
    omega

/-- Every order of a piece is evaluated, also one whose cost is refused. -/
theorem evaluateChunk_evaluated (r : Request) (services : List Service) (orders : List Order) :
    (evaluateChunk r services false orders).evaluated = orders.length := by
  rw [evaluateChunk_false, evaluated_foldl_bill]
  exact Nat.zero_add _

theorem evaluated_foldl_absorb (c : Chunk) (ds : List Chunk) :
    (ds.foldl absorb c).evaluated = c.evaluated + (ds.map (·.evaluated)).sum := by
  induction ds generalizing c with
  | nil => rfl
  | cons d rest ih =>
    have hstep : (absorb c d).evaluated = c.evaluated + d.evaluated := rfl
    rw [List.foldl_cons, ih, hstep, List.map_cons, List.sum_cons]
    omega

theorem billPieces_evaluated (r : Request) (services : List Service) (pieces : List (List Order)) :
    (billPieces r services false pieces).evaluated = pieces.flatten.length := by
  have hpieces : (pieces.map (evaluateChunk r services false)).map (·.evaluated) = pieces.map List.length := by
    rw [List.map_map]
    exact List.map_congr_left fun p _ => evaluateChunk_evaluated r services p
  have h := evaluated_foldl_absorb (Chunk.new r) (pieces.map (evaluateChunk r services false))
  rw [hpieces, ← List.length_flatten] at h
  exact h.trans (Nat.zero_add _)

/-- A run evaluates the orders in scope, unless it has no service to charge. -/
theorem run_evaluated (catalog : Catalog) (settings : Settings) (available : Nat) (r : Request) (orders : List Order) :
    (run catalog settings available r orders false).evaluated =
      if (selected catalog r).isEmpty then 0 else (inScope r orders).length := by
  rw [run_eq, billPieces_evaluated]
  split
  · rfl
  · rw [flatten_chunks (settings.workersFor_pos _ _)]

end Billing

/-! ## Calls -/

/-- A call for a report, on a machine that has `available` workers at the time. -/
structure Call where
  request : Request
  orders : List Order
  available : Nat

namespace Call

def selects (catalog : Catalog) (c : Call) : Bool :=
  !(catalog.select c.request.customerId c.request.included).isEmpty

def scope (c : Call) : List Order := c.orders.filter c.request.covers

end Call

structure Answer where
  report : Report
  skipped : List Skipped
  cancelled : Bool

def Answer.lineCount (a : Answer) : Nat := (a.report.orders.map (·.lines.length)).sum

structure Calculator where
  catalog : Catalog
  settings : Settings
  metrics : Metrics

namespace Calculator

def run (k : Calculator) (c : Call) : Billing.Outcome :=
  Billing.run k.catalog k.settings c.available c.request c.orders false

/-- Answers a call. The run is counted before the skipped charges are dropped. -/
def call (k : Calculator) (c : Call) : Answer × Calculator :=
  let o := k.run c
  (⟨o.report, o.listed k.settings, o.cancelled⟩, { k with metrics := k.metrics.record o })

def session (k : Calculator) : List Call → List Answer × Calculator
  | [] => ([], k)
  | c :: rest =>
    let (answer, k) := k.call c
    let (answers, k) := k.session rest
    (answer :: answers, k)

def listing (k : Calculator) (on : Bool) : Calculator :=
  { k with settings := { k.settings with collectDiagnostics := on } }

/-! ## One call -/

/-- What some calls add to the counters. `listed` are their answers with diagnostics on. -/
structure Counts (catalog : Catalog) (m : Metrics) (calls : List Call) (answers listed : List Answer) (m' : Metrics) :
    Prop where
  reports : m'.reportsGenerated = m.reportsGenerated + calls.length
  lines : m'.serviceCostsRecorded = m.serviceCostsRecorded + (answers.map (·.lineCount)).sum
  evaluated : m'.ordersEvaluated =
    m.ordersEvaluated + ((calls.filter (·.selects catalog)).map (·.scope.length)).sum
  skipped : m'.chargesSkipped = m.chargesSkipped + (listed.map (·.skipped.length)).sum

theorem run_evaluated (k : Calculator) (c : Call) :
    (k.run c).evaluated = if c.selects k.catalog then c.scope.length else 0 := by
  rw [run, Billing.run_evaluated, Call.selects]
  by_cases h : (Billing.selected k.catalog c.request).isEmpty
  · rw [if_pos h, if_neg (by simpa [Billing.selected] using h)]
  · rw [if_neg h, if_pos (by simpa [Billing.selected] using h)]
    rfl

theorem call_counts (k : Calculator) (c : Call) :
    Counts k.catalog k.metrics [c] [(k.call c).1] [((k.listing true).call c).1] (k.call c).2.metrics where
  reports := rfl
  lines := by
    show _ + ((k.run c).report.orders.flatMap (·.lines)).length = _ + (k.call c).1.lineCount
    rw [List.length_flatMap]
    rfl
  evaluated := by
    show _ + (k.run c).evaluated = _
    rw [run_evaluated]
    cases h : c.selects k.catalog <;> simp [h]
  skipped := rfl

/-! ## A session -/

variable {catalog : Catalog} {m m' m'' : Metrics}

theorem Counts.trans {cs ds : List Call} {as bs ks ls : List Answer} (h : Counts catalog m cs as ks m')
    (h' : Counts catalog m' ds bs ls m'') : Counts catalog m (cs ++ ds) (as ++ bs) (ks ++ ls) m'' where
  reports := by rw [h'.reports, h.reports, List.length_append, Nat.add_assoc]
  lines := by rw [h'.lines, h.lines, List.map_append, List.sum_append, Nat.add_assoc]
  evaluated := by
    rw [h'.evaluated, h.evaluated, List.filter_append, List.map_append, List.sum_append, Nat.add_assoc]
  skipped := by rw [h'.skipped, h.skipped, List.map_append, List.sum_append, Nat.add_assoc]

theorem session_counts (k : Calculator) (calls : List Call) :
    Counts k.catalog k.metrics calls (k.session calls).1 ((k.listing true).session calls).1
      (k.session calls).2.metrics := by
  induction calls generalizing k with
  | nil => exact ⟨rfl, rfl, rfl, rfl⟩
  | cons c rest ih => exact (call_counts k c).trans (ih (k.call c).2)

/-- An answer is the same whatever was counted before. -/
theorem session_answers (k : Calculator) (calls : List Call) :
    (k.session calls).1 = calls.map fun c => (k.call c).1 := by
  induction calls generalizing k with
  | nil => rfl
  | cons c rest ih =>
    show (k.call c).1 :: ((k.call c).2.session rest).1 = _
    rw [ih]
    rfl

theorem session_metrics_listing (k : Calculator) (on : Bool) (calls : List Call) :
    ((k.listing on).session calls).2.metrics = (k.session calls).2.metrics := by
  induction calls generalizing k with
  | nil => rfl
  | cons c rest ih => exact ih (k.call c).2

/-- Without diagnostics nothing but the lists is missing. -/
theorem session_unlisted (k : Calculator) (calls : List Call) :
    ((k.listing false).session calls).1 =
      ((k.listing true).session calls).1.map fun a => { a with skipped := [] } := by
  rw [session_answers, session_answers, List.map_map]
  rfl

/-- After any calls the counters say how many reports were made, how many lines these have, how many orders were in
    scope where a service is selected, and how many charges the answers list as skipped when diagnostics are on. With
    diagnostics off the counters are the same, and so are the answers but for their lists, which are empty. -/
theorem session_counted (catalog : Catalog) (settings : Settings) (calls : List Call) :
    let k : Calculator := ⟨catalog, settings, .zero⟩
    let counters := (k.session calls).2.metrics
    let listed := ((k.listing true).session calls).1
    (counters.reportsGenerated = calls.length ∧
      counters.serviceCostsRecorded = ((k.session calls).1.map (·.lineCount)).sum ∧
      counters.ordersEvaluated = ((calls.filter (·.selects catalog)).map (·.scope.length)).sum ∧
      counters.chargesSkipped = (listed.map (·.skipped.length)).sum) ∧
    ((k.listing false).session calls).2.metrics = ((k.listing true).session calls).2.metrics ∧
    ((k.listing false).session calls).1 = listed.map fun a => { a with skipped := [] } := by
  intro k counters listed
  have hcounts := session_counts k calls
  refine ⟨⟨?_, ?_, ?_, ?_⟩, ?_, ?_⟩
  · exact hcounts.reports.trans (Nat.zero_add _)
  · exact hcounts.lines.trans (Nat.zero_add _)
  · exact hcounts.evaluated.trans (Nat.zero_add _)
  · exact hcounts.skipped.trans (Nat.zero_add _)
  · rw [session_metrics_listing, session_metrics_listing]
  · exact session_unlisted k calls

/-- Two of four orders are refused in the first call, one by its piece and one by the merge; the second call selects no
    service. All four are evaluated. -/
example :
    ((Calculator.session ⟨⟨[Billing.Small.storage, Billing.Small.freight]⟩, ⟨2, 1, false⟩, .zero⟩
      [⟨Billing.Small.request, Billing.Small.orders, 2⟩,
        ⟨{ Billing.Small.request with included := some [] }, Billing.Small.orders, 2⟩]).2.metrics) =
      ⟨2, 4, 2, 2, 2⟩ := by
  decide +kernel

end Calculator

end Tariff
