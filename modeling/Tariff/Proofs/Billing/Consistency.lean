/-
  Tariff.Proofs.Billing.Consistency — when the totals of a bill agree.

  A bill sums its lines by service and by order. Each grouping rounds, or overflows, where
  a sum needs more than 96 bits, and the totals agree exactly if both come out alike
  (`run_consistent_iff`): always, when the lines are exact in cents, and not always beyond
  (`run_inconsistent`).
-/
import Tariff.Proofs.Billing.Pieces
import Tariff.Proofs.Report.Rebuilding

namespace Tariff

namespace Report

open Decimal

/-! ## Two groupings -/

/-- The lines summed order by order; `none` if a sum overflows. -/
def byOrder (cs : List OrderCost) : Option Decimal := do
  Decimal.sum (← cs.mapM (·.lineSum))

theorem serviceSum_of_booked {r : Report} (hr : Booked r) : r.serviceSum = byService r.lines :=
  (byService_of_tally hr.totals).symm

theorem orderSum_of_booked {r : Report} (hr : Booked r) : r.orderSum = byOrder r.orders := by
  unfold byOrder
  rw [mapM_eq_some_map hr.costs]
  rfl

/-- The totals agree if and only if both groupings come to the same. -/
theorem consistent_resummed_iff {r : Report} (hr : Booked r) :
    r.resummed.consistent = some true ↔
      ∃ a b, byService r.lines = some a ∧ byOrder r.orders = some b ∧ a.value = b.value := by
  rw [← serviceSum_of_booked hr, ← orderSum_of_booked hr]
  have hs : r.resummed.serviceSum = r.serviceSum := rfl
  have ho : r.resummed.orderSum = r.orderSum := rfl
  unfold consistent
  rw [hs, ho]
  unfold resummed
  cases r.serviceSum with
  | none => simp
  | some a =>
    cases r.orderSum with
    | none => simp [same]
    | some b => simp [same]

theorem consistent_of_fitting {places : Nat} {r : Report} (hr : Booked r) (h : Fitting places r.lines) :
    r.resummed.consistent = some true := by
  obtain ⟨a, ha, hav⟩ := serviceSum_exact hr h
  obtain ⟨b, hb, hbv⟩ := orderSum_exact hr h
  rw [serviceSum_of_booked hr] at ha
  rw [orderSum_of_booked hr] at hb
  exact (consistent_resummed_iff hr).mpr ⟨a, b, ha, hb, hav.trans hbv.symm⟩

end Report

namespace Billing

open Report

/-! ## Runs -/

/-- The totals of a bill agree if and only if its lines come to the same by service and by order, and
    they do if what they come to fits in cents. -/
theorem run_consistent_iff (catalog : Catalog) (settings : Settings) (available : Nat) (r : Request)
    (orders : List Order) (cancelled : Bool) :
    let report := (run catalog settings available r orders cancelled).report
    (report.consistent = some true ↔
        ∃ a b, byService report.lines = some a ∧ byOrder report.orders = some b ∧ a.value = b.value) ∧
      (Decimal.exactSum (report.lines.map (·.amount)) * 100 ≤ Decimal.maxCoefficient →
        report.consistent = some true) := by
  intro report
  obtain ⟨pieces, hrun, -⟩ := run_cases catalog settings available r orders
  have hb := booked_merged r (selected catalog r) cancelled pieces
  have hreport := (congrArg Outcome.report (hrun cancelled)).trans
    (billPieces_report r (selected catalog r) cancelled pieces)
  have hconsistent : report.consistent = (merged r (selected catalog r) cancelled pieces).resummed.consistent :=
    (congrArg consistent hreport).trans rfl
  have horders : report.orders = (merged r (selected catalog r) cancelled pieces).orders :=
    (congrArg Report.orders hreport).trans rfl
  have hlines : report.lines = (merged r (selected catalog r) cancelled pieces).lines :=
    (congrArg lines hreport).trans rfl
  rw [hconsistent, hlines, horders]
  refine ⟨consistent_resummed_iff hb, ?_⟩
  intro h
  have hcharged : ∀ l ∈ (merged r (selected catalog r) cancelled pieces).lines, Charged l := by
    intro l hl
    exact merged_charged hl
  exact consistent_of_fitting hb (fitting_of_charged hcharged h)

/-- Eight cents for each of four orders. -/
theorem run_consistent_small :
    Decimal.exactSum ((run ⟨[Small.label, Small.tape]⟩ .sequential 1 Small.request Small.orders
        false).report.lines.map (·.amount)) * 100 ≤ Decimal.maxCoefficient ∧
      (run ⟨[Small.label, Small.tape]⟩ .sequential 1 Small.request Small.orders false).report.consistent =
        some true :=
  ⟨by decide +kernel,
    (run_consistent_iff ⟨[Small.label, Small.tape]⟩ .sequential 1 Small.request Small.orders false).2
      (by decide +kernel)⟩

namespace Small

def base : Service := service "z" "Base" 800000000000000000000000000 0 none

end Small

/-- The order total rounds four cents off twice, the service totals first make eight cents of them. -/
theorem run_inconsistent :
    Catalog.ofServices [Small.base, Small.label, Small.tape] = .ok ⟨[Small.base, Small.label, Small.tape]⟩ ∧
      (run ⟨[Small.base, Small.label, Small.tape]⟩ .sequential 1 Small.request [Small.order "o-1" none]
        false).report.consistent = some false :=
  ⟨rfl, by decide +kernel⟩

end Billing

end Tariff
