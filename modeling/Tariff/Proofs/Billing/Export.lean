/-
  Tariff.Proofs.Billing.Export — exported reports are read back.

  The amounts of a report from a run are in cents, so the two places they are written with
  leave nothing out. No text in a report can end a row early or forge one: a reader finds
  the lines and the summary, each row with what it was written for.
  - `csv_of_inCents`: any report with its amounts in cents.
  - `csv_readBack`: such reports, and those of every run.
-/
import Mathlib.Data.List.Forall2
import Tariff.Proofs.Billing.WellFormed
import Tariff.Proofs.Csv
import Tariff.Proofs.Decimal.Written

namespace Tariff

open Decimal

namespace Report

/-! ## Rows -/

structure InCents (r : Report) : Prop where
  lines : ∀ cost ∈ r.orders, ∀ line ∈ cost.lines, line.amount.InCents
  services : ∀ e ∈ r.serviceTotals.entries, e.2.amount.InCents
  total : r.total.InCents

def items (r : Report) : List (OrderCost × ServiceCost) := r.orders.flatMap fun cost => cost.lines.map (cost, ·)

def IsLineRow (item : OrderCost × ServiceCost) (columns : List String) : Prop :=
  ∃ amount, Writes amount item.2.amount.value ∧
    columns = [item.1.orderId, item.1.reference.getD "", item.1.date.text, item.2.serviceId, item.2.serviceName, amount]

def IsTotalRow (e : String × ServiceTotal) (columns : List String) : Prop :=
  ∃ amount, Writes amount e.2.amount.value ∧ columns = [e.1, e.2.serviceName, amount]

/-- A reader finds the lines in report order and the service totals in ascending order of
    the services, and every amount says exactly what it was. -/
def ReadBack (r : Report) : Prop :=
  ∃ lines totals total,
    Csv.sectionsOf r.csv =
      some (lineHeader :: lines, ["SUMMARY"] :: summaryHeader :: totals ++ [["TOTAL", "", total]]) ∧
    List.Forall₂ IsLineRow r.items lines ∧
    List.Forall₂ IsTotalRow r.serviceTotals.entries totals ∧
    Writes total r.total.value

def lineRow (item : OrderCost × ServiceCost) : List String :=
  [item.1.orderId, item.1.reference.getD "", item.1.date.text, item.2.serviceId, item.2.serviceName,
    item.2.amount.centsText]

def totalRow (e : String × ServiceTotal) : List String := [e.1, e.2.serviceName, e.2.amount.centsText]

theorem lineRows_eq (r : Report) : r.lineRows = lineHeader :: r.items.map lineRow := by
  have horder : orderRows = fun cost => (cost.lines.map (cost, ·)).map lineRow := by
    funext cost
    simp [orderRows, lineRow, Function.comp_def]
  rw [lineRows, items, List.map_flatMap, horder]

theorem summaryRows_eq (r : Report) :
    r.summaryRows =
      ["SUMMARY"] :: summaryHeader :: r.serviceTotals.entries.map totalRow ++ [["TOTAL", "", r.total.centsText]] := rfl

/-- Every row has a field that is not empty, or has several. -/
theorem readable_rows (r : Report) : ∀ columns ∈ r.lineRows ++ r.summaryRows, columns ≠ [] ∧ columns ≠ [""] := by
  intro columns hc
  rw [lineRows_eq, summaryRows_eq] at hc
  simp only [List.mem_append, List.mem_cons, List.mem_map, List.not_mem_nil, or_false] at hc
  rcases hc with (rfl | ⟨item, -, rfl⟩) | (rfl | rfl | ⟨e, -, rfl⟩) | rfl
  · simp [lineHeader]
  · simp [lineRow]
  · simp
  · simp [summaryHeader]
  · simp [totalRow]
  · simp

/-- Amounts in cents are all there, whatever the texts of the report are. -/
theorem csv_of_inCents {r : Report} (h : r.InCents) : r.ReadBack := by
  refine ⟨r.items.map lineRow, r.serviceTotals.entries.map totalRow, r.total.centsText, ?_, ?_, ?_, ?_⟩
  · rw [csv, Csv.sectionsOf_flatMap_row (readable_rows r), lineRows_eq, summaryRows_eq]
  · rw [List.forall₂_map_right_iff, List.forall₂_same]
    intro item hitem
    obtain ⟨cost, hcost, hpair⟩ := List.mem_flatMap.mp hitem
    obtain ⟨line, hline, rfl⟩ := List.mem_map.mp hpair
    exact ⟨_, writes_centsText (h.lines cost hcost line hline), rfl⟩
  · rw [List.forall₂_map_right_iff, List.forall₂_same]
    intro e he
    exact ⟨_, writes_centsText (h.services e he), rfl⟩
  · exact writes_centsText h.total

end Report

namespace Billing

/-! ## Runs -/

theorem WellFormed.inCents {r : Request} {report : Report} (h : WellFormed r report) : report.InCents where
  lines cost hcost line hline := inCents_of_scale_le (h.amounts cost hcost line hline).scale_le
  services e he := inCents_of_scale_le (h.serviceTotals e.1 e.2 ((report.serviceTotals.mem_entries_iff ..).mp he)).scale_le
  total := inCents_of_scale_le h.scale_le

/-- Reports with amounts in cents are read back, and those of a run have such amounts, also
    if it got only as far as some orders of its pieces. -/
theorem csv_readBack :
    (∀ report : Report, report.InCents → report.ReadBack) ∧
      ∀ (catalog : Catalog) (settings : Settings) (available : Nat) (r : Request) (orders : List Order)
        (cancelled : Bool),
        (run catalog settings available r orders cancelled).report.ReadBack ∧
          ∀ pieces : List (List Order), pieces.flatten.Sublist (inScope r orders) →
            (billPieces r (selected catalog r) cancelled pieces).report.ReadBack := by
  refine ⟨fun report h => report.csv_of_inCents h, ?_⟩
  intro catalog settings available r orders cancelled
  have hsome : ∀ pieces : List (List Order), pieces.flatten.Sublist (inScope r orders) →
      (billPieces r (selected catalog r) cancelled pieces).report.ReadBack := by
    intro pieces hp
    have hcovers : ∀ o ∈ pieces.flatten, r.covers o = true := fun o ho => (List.mem_filter.mp (hp.subset ho)).2
    exact Report.csv_of_inCents (wellFormed_billPieces (selected catalog r) cancelled hcovers).inCents
  refine ⟨?_, hsome⟩
  obtain ⟨pieces, hrun, hpieces⟩ := run_cases catalog settings available r orders
  rw [hrun]
  refine hsome pieces ?_
  rcases hpieces with ⟨-, rfl⟩ | hp
  · exact List.nil_sublist _
  · rw [hp]

namespace Small

def cents (n : Nat) : Decimal := (ofParts false n 2).getD .zero

/-- Texts with commas, quotes and line breaks in them, one that is empty, and one that looks
    like the end of a report. -/
def awkward : Report where
  customerId := "c-1"
  start := request.start
  stop := request.stop
  total := cents 1250
  serviceTotals := .ofList [
    ("", ⟨"a \"b\"", cents 50⟩),
    ("x,\n\nSUMMARY", ⟨"\r", cents 1200⟩)]
  orders := [⟨"\nTOTAL,,9.99\n", none, request.start, [
    ⟨"", "a \"b\"", cents 50⟩,
    ⟨"x,\n\nSUMMARY", "\r", cents 1200⟩], cents 1250⟩]
  metadata := ⟨[], .epoch, false⟩

end Small

/-- A report of awkward texts, and a run that stops after one order of each piece. -/
theorem csv_readBack_small :
    Small.awkward.InCents ∧ Small.awkward.ReadBack ∧
      Csv.sectionsOf Small.awkward.csv =
        some ([Report.lineHeader,
            ["\nTOTAL,,9.99\n", "", "2024-01-01", "", "a \"b\"", "0.50"],
            ["\nTOTAL,,9.99\n", "", "2024-01-01", "x,\n\nSUMMARY", "\r", "12.00"]],
          [["SUMMARY"], Report.summaryHeader, ["", "a \"b\"", "0.50"], ["x,\n\nSUMMARY", "\r", "12.00"],
            ["TOTAL", "", "12.50"]]) ∧
      [Small.orders.take 1, (Small.orders.drop 2).take 1].flatten.Sublist (inScope Small.request Small.orders) ∧
      (billPieces Small.request (selected ⟨[Small.storage, Small.freight]⟩ Small.request) false
        [Small.orders.take 1, (Small.orders.drop 2).take 1]).report.ReadBack := by
  have hread : Csv.sectionsOf Small.awkward.csv =
      some ([Report.lineHeader,
          ["\nTOTAL,,9.99\n", "", "2024-01-01", "", "a \"b\"", "0.50"],
          ["\nTOTAL,,9.99\n", "", "2024-01-01", "x,\n\nSUMMARY", "\r", "12.00"]],
        [["SUMMARY"], Report.summaryHeader, ["", "a \"b\"", "0.50"], ["x,\n\nSUMMARY", "\r", "12.00"],
          ["TOTAL", "", "12.50"]]) := by
    rw [Csv.sectionsOf, Csv.rowsOf, Report.csv, String.toList_ofList]
    decide +kernel
  have hlines : ∀ cost ∈ Small.awkward.orders, ∀ line ∈ cost.lines, line.amount.scale ≤ 2 := by decide
  have hservices : ∀ e ∈ Small.awkward.serviceTotals.entries, e.2.amount.scale ≤ 2 := by decide +kernel
  have hcents : Small.awkward.InCents := by
    refine ⟨?_, ?_, inCents_of_scale_le (by decide)⟩
    · intro cost hcost line hline
      exact inCents_of_scale_le (hlines cost hcost line hline)
    · intro e he
      exact inCents_of_scale_le (hservices e he)
  have hcut : [Small.orders.take 1, (Small.orders.drop 2).take 1].flatten.Sublist
      (inScope Small.request Small.orders) :=
    .cons_cons _ (.cons _ (.cons_cons _ (List.nil_sublist _)))
  have h := csv_readBack.2 ⟨[Small.storage, Small.freight]⟩ .sequential 1 Small.request Small.orders false
  exact ⟨hcents, csv_readBack.1 _ hcents, hread, hcut, h.2 _ hcut⟩

end Billing

end Tariff
