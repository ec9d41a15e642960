/-
  Tariff.Proofs.Billing.WellFormed — what holds of every report that a run returns.

  Nothing is assumed of the amounts: totals may be rounded, costs refused by a piece or by
  the merge, the rebuild may fail, and the run may be cancelled.
  - `wellFormed_billPieces`: a run in any pieces of orders that the request covers.
  - `run_wellFormed`: a run, and one that is cancelled after some orders of each piece.
-/
import Tariff.Proofs.Billing.Pieces
import Tariff.Proofs.Report.Earnings

namespace Tariff.Billing

open Decimal Report

/-- Every amount in the report is above zero, and its services, their names and its days are those of its lines. -/
structure WellFormed (r : Request) (report : Report) : Prop where
  start : report.start = r.start
  stop : report.stop = r.stop
  lines : ∀ c ∈ report.orders, c.lines ≠ []
  amounts : ∀ c ∈ report.orders, ∀ l ∈ c.lines, Positive 2 l.amount
  orderTotals : ∀ c ∈ report.orders, Positive 2 c.total
  serviceTotals : ∀ id t, report.serviceTotals.get? id = some t → Positive 2 t.amount
  /-- The services with a total are those that a line is for. -/
  services : ∀ id, id ∈ report.serviceTotals.names ↔ ∃ c ∈ report.orders, ∃ l ∈ c.lines, l.serviceId = id
  /-- A service has the name on the first of its lines. -/
  names : ∀ id t, report.serviceTotals.get? id = some t → firstName id report.lines = some t.serviceName
  dates : ∀ c ∈ report.orders, r.start ≤ c.date ∧ c.date ≤ r.stop
  scale_le : report.total.scale ≤ 2
  total_eq_zero : report.total.value = 0 ↔ report.orders = []

/-! ## Costs -/

theorem evaluate_earned {services : List Service} {o : Order} {c : OrderCost} (h : (evaluate services o).1 = some c) :
    c.Earned 2 := by
  obtain ⟨hs, hlines⟩ := evaluate_tally h
  refine ⟨hs.summed, hlines, ?_⟩
  intro l hl
  have hcharged := hs.charged l hl
  exact ⟨hcharged.pos, hcharged.scale_le⟩

theorem costs_earned {services : List Service} {orders : List Order} {c : OrderCost} (h : c ∈ costs services orders) :
    c.Earned 2 := by
  obtain ⟨o, -, ho⟩ := List.mem_filterMap.mp h
  exact evaluate_earned ho

theorem earning_merged (r : Request) (services : List Service) (cancelled : Bool) (pieces : List (List Order)) :
    Earning 2 (merged r services cancelled pieces) :=
  earning_merge (earning_new ..) fun _ hc => costs_earned (mem_pieces_orders hc)

/-! ## Reports -/

/-- An earning report is well-formed if its costs are of days that the request covers. -/
theorem wellFormed_of_earning {r : Request} {report : Report} (h : Earning 2 report) (hstart : report.start = r.start)
    (hstop : report.stop = r.stop) (hdates : ∀ c ∈ report.orders, r.start ≤ c.date ∧ c.date ≤ r.stop) :
    WellFormed r report where
  start := hstart
  stop := hstop
  lines c hc := (h.orders c hc).lines
  amounts c hc := (h.orders c hc).amounts
  orderTotals c hc := (h.orders c hc).total
  serviceTotals id t ht := h.serviceTotal ht
  services id := by
    rw [mem_names_of_booked h.booked, Report.lines, List.map_flatMap]
    simp
  names id t ht := by
    rw [← nameIn_of_booked h.booked, nameIn, ht]
    rfl
  dates := hdates
  scale_le := by
    by_cases hnil : report.orders = []
    · rw [h.nothing hnil]
      exact Nat.zero_le 2
    · exact (h.total hnil).scale_le
  total_eq_zero := by
    constructor
    · intro hzero
      by_contra hne
      exact (h.total hne).pos.ne' hzero
    · intro hnil
      rw [h.nothing hnil, value_zero]

theorem wellFormed_billPieces {r : Request} (services : List Service) (cancelled : Bool) {pieces : List (List Order)}
    (h : ∀ o ∈ pieces.flatten, r.covers o = true) :
    WellFormed r (billPieces r services cancelled pieces).report := by
  have hearning := earning_resummed (earning_merged r services cancelled pieces)
  have hhead := sameHead_merge (blank r) ((pieces.map (evaluateChunk r services cancelled)).flatMap (·.report.orders))
  have hdates : ∀ c ∈ (merged r services cancelled pieces).orders, r.start ≤ c.date ∧ c.date ≤ r.stop := by
    intro c hc
    obtain ⟨o, ho, hcost⟩ := List.mem_filterMap.mp (merged_orders_subset hc)
    have hcovers := h o ho
    simp only [Request.covers, Bool.and_eq_true, decide_eq_true_eq] at hcovers
    rw [evaluate_date hcost]
    exact ⟨hcovers.1.2, hcovers.2⟩
  rw [billPieces_report]
  refine wellFormed_of_earning ?_ hhead.start hhead.stop hdates
  exact ⟨⟨⟨hearning.booked.totals, hearning.booked.costs⟩, hearning.orders⟩, hearning.nothing, hearning.total⟩

/-- Every report is well-formed, also that of a run that got only as far as some orders of its pieces. -/
theorem run_wellFormed (catalog : Catalog) (settings : Settings) (available : Nat) (r : Request) (orders : List Order)
    (cancelled : Bool) :
    WellFormed r (run catalog settings available r orders cancelled).report ∧
      ∀ pieces : List (List Order), pieces.flatten.Sublist (inScope r orders) →
        WellFormed r (billPieces r (selected catalog r) cancelled pieces).report := by
  have hsome : ∀ pieces : List (List Order), pieces.flatten.Sublist (inScope r orders) →
      WellFormed r (billPieces r (selected catalog r) cancelled pieces).report := by
    intro pieces hp
    refine wellFormed_billPieces (selected catalog r) cancelled ?_
    intro o ho
    exact (List.mem_filter.mp (hp.subset ho)).2
  refine ⟨?_, hsome⟩
  obtain ⟨pieces, hrun, hpieces⟩ := run_cases catalog settings available r orders
  rw [hrun]
  refine hsome pieces ?_
  rcases hpieces with ⟨-, rfl⟩ | hp
  · exact List.nil_sublist _
  · rw [hp]

/-- A run that stops after one order of each piece. Each piece takes its order, the merge only the first. -/
theorem run_wellFormed_cut :
    [Small.orders.take 1, (Small.orders.drop 2).take 1].flatten.Sublist (inScope Small.request Small.orders) ∧
      WellFormed Small.request (billPieces Small.request (selected ⟨[Small.storage, Small.freight]⟩ Small.request) false
        [Small.orders.take 1, (Small.orders.drop 2).take 1]).report ∧
      ((billPieces Small.request (selected ⟨[Small.storage, Small.freight]⟩ Small.request) false
        [Small.orders.take 1, (Small.orders.drop 2).take 1]).report.orders.map (·.orderId)) = ["o-1"] := by
  have hcut : [Small.orders.take 1, (Small.orders.drop 2).take 1].flatten.Sublist
      (inScope Small.request Small.orders) :=
    .cons_cons _ (.cons _ (.cons_cons _ (List.nil_sublist _)))
  have h := run_wellFormed ⟨[Small.storage, Small.freight]⟩ .sequential 1 Small.request Small.orders false
  exact ⟨hcut, h.2 _ hcut, by decide +kernel⟩

end Tariff.Billing
