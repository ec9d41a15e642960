/-
  Tariff.Proofs.Billing.Reference — bills as they are meant.

  `ReferenceBill` says what the bill of a request is without running totals, pieces or
  merges: each order with the lines of its services, and exact sums of them. A run gives
  that bill, with any number of workers, if all its lines together fit in cents
  (`run_reference`).
-/
import Tariff.Proofs.Billing.Pieces

namespace Tariff.Billing

open Decimal Report

/-! ## The reference -/

def servicesFor (catalog : Catalog) (r : Request) : List Service :=
  catalog.services.filter fun s =>
    s.customerId = r.customerId ∧ s.active = true ∧ ∀ ids ∈ r.included, s.id ∈ ids

def ordersFor (r : Request) (orders : List Order) : List Order :=
  orders.filter fun o => o.customerId = r.customerId ∧ r.start ≤ o.date ∧ o.date ≤ r.stop

def allLines (services : List Service) (orders : List Order) : List ServiceCost := orders.flatMap (linesOf services)

/-- The cost of an order: its lines, and what they come to exactly. -/
structure ReferenceCost (services : List Service) (o : Order) (c : OrderCost) : Prop where
  orderId : c.orderId = o.id
  reference : c.reference = o.text .referenceNumber
  date : c.date = o.date
  lines : c.lines = linesOf services o
  total : c.total.value = exactSum ((linesOf services o).map (·.amount))

structure ReferenceBill (r : Request) (services : List Service) (scope : List Order) (report : Report)
    (skipped : List Skipped) : Prop where
  customerId : report.customerId = r.customerId
  start : report.start = r.start
  stop : report.stop = r.stop
  metadata : report.metadata = ⟨services.map (·.id), .epoch, false⟩
  /-- The orders with at least one line. -/
  orders : List.Forall₂ (ReferenceCost services) (scope.filter fun o => linesOf services o ≠ []) report.orders
  /-- Each service that has a line, by the name on its first one. -/
  serviceTotals : ∀ id, (report.serviceTotals.get? id).map (fun t => (t.serviceName, t.amount.value)) =
    (firstName id (allLines services scope)).map fun name =>
      (name, exactSum (amountsOf id (allLines services scope)))
  total : report.total.value = exactSum ((allLines services scope).map (·.amount))
  skipped : skipped = scope.flatMap (failuresOf services)

theorem selected_eq (catalog : Catalog) (r : Request) : selected catalog r = servicesFor catalog r := by
  unfold selected Catalog.select servicesFor
  refine List.filter_congr fun s _ => ?_
  cases r.included <;> simp [Bool.and_assoc, Bool.decide_and, Bool.beq_eq_decide_eq]

theorem inScope_eq (r : Request) (orders : List Order) : inScope r orders = ordersFor r orders := by
  unfold inScope ordersFor
  refine List.filter_congr fun o _ => ?_
  simp [Request.covers, Bool.and_assoc, Bool.beq_eq_decide_eq]

/-! ## Costs whose lines fit -/

/-- Orders whose lines fit: each has its cost, if it has lines, and the entries of its failed charges. -/
theorem costs_of_fitting {services : List Service} {orders : List Order}
    (h : Fitting 2 (allLines services orders)) :
    List.Forall₂ (ReferenceCost services) (orders.filter fun o => linesOf services o ≠ []) (costs services orders) ∧
      (costs services orders).flatMap (·.lines) = allLines services orders ∧
      (orders.flatMap fun o => (evaluate services o).2) = orders.flatMap (failuresOf services) := by
  induction orders with
  | nil => exact ⟨.nil, rfl, rfl⟩
  | cons o rest ih =>
    have hcons : allLines services (o :: rest) = linesOf services o ++ allLines services rest := List.flatMap_cons
    rw [hcons] at h
    have ho : Fitting 2 (linesOf services o) := h.sublist (List.sublist_append_left _ _)
    obtain ⟨ihorders, ihlines, ihskipped⟩ := ih (h.sublist (List.sublist_append_right _ _))
    obtain ⟨total, hcost, hskipped⟩ := evaluate_of_fitting ho
    rw [costs_cons, List.flatMap_append, List.flatMap_cons, List.flatMap_cons, ihlines, ihskipped, hskipped, hcons]
    by_cases he : linesOf services o = []
    · rw [if_pos (List.isEmpty_iff.mpr he)] at hcost
      rw [hcost, he, List.filter_cons_of_neg (by simp [he])]
      exact ⟨ihorders, rfl, rfl⟩
    · rw [if_neg (by rwa [List.isEmpty_iff])] at hcost
      rw [hcost, List.filter_cons_of_pos (by simpa using he)]
      have hc : ReferenceCost services o ⟨o.id, o.text .referenceNumber, o.date, linesOf services o, total⟩ :=
        ⟨rfl, rfl, rfl, rfl, (total_exact (evaluate_cost hcost).2.1 ho).1⟩
      exact ⟨.cons hc ihorders, by simp, rfl⟩

theorem allLines_fitting {services : List Service} {orders : List Order}
    (h : exactSum ((allLines services orders).map (·.amount)) * 100 ≤ maxCoefficient) :
    Fitting 2 (allLines services orders) := by
  refine fitting_of_charged ?_ h
  intro l hl
  obtain ⟨o, -, ho⟩ := List.mem_flatMap.mp hl
  exact linesOf_charged ho

/-! ## Runs whose lines fit -/

theorem pieceVerdicts_of_fitting {r : Request} {services : List Service} {orders : List Order}
    (h : Fitting 2 (allLines services orders)) : ∀ v ∈ pieceVerdicts r services orders, v = none := by
  have hsummed : ∀ c ∈ costs services orders, c.Summed := by
    intro c hc
    exact costs_summed hc
  have hfit : Fitting 2 ((blank r).lines ++ (costs services orders).flatMap (·.lines)) := by
    rw [(costs_of_fitting h).2.1]
    exact h
  exact verdicts_of_fitting (booked_new ..) hsummed hfit

/-- No piece refuses a cost, and neither does the merge. -/
theorem splitVerdicts_of_fitting {r : Request} {services : List Service} {pieces : List (List Order)}
    (h : Fitting 2 (allLines services pieces.flatten)) : ∀ v ∈ splitVerdicts r services pieces, v = none := by
  have hown : ∀ v ∈ ownVerdicts r services pieces, v = none := by
    intro v hv
    obtain ⟨p, hp, hv⟩ := List.mem_flatMap.mp hv
    have hsub : (allLines services p).Sublist (allLines services pieces.flatten) :=
      (List.sublist_flatten_of_mem hp).flatMap _
    exact pieceVerdicts_of_fitting (h.sublist hsub) v hv
  unfold splitVerdicts
  rw [taken_of_all_none (length_ownVerdicts r services pieces) hown]
  exact appealed_of_all_none hown (pieceVerdicts_of_fitting h)

theorem merged_orders_of_fitting {r : Request} {services : List Service} {pieces : List (List Order)}
    (h : Fitting 2 (allLines services pieces.flatten)) :
    (merged r services false pieces).orders = costs services pieces.flatten := by
  rw [merged_orders, taken_of_all_none (length_splitVerdicts r services pieces) (splitVerdicts_of_fitting h)]

/-- Only failed charges are skipped. -/
theorem skipped_of_fitting {r : Request} {services : List Service} {pieces : List (List Order)}
    (h : Fitting 2 (allLines services pieces.flatten)) :
    (billPieces r services false pieces).skipped = pieces.flatten.flatMap (failuresOf services) := by
  have hrefused := billPieces_ofOrders r services pieces
  rw [refusals_of_all_none (splitVerdicts_of_fitting h)] at hrefused
  have hnone : ofOrders (billPieces r services false pieces).skipped = [] := List.perm_nil.mp hrefused
  have hall : ofServices (billPieces r services false pieces).skipped =
      (billPieces r services false pieces).skipped := by
    refine List.filter_eq_self.mpr ?_
    intro x hx
    have := List.filter_eq_nil_iff.mp hnone x hx
    rwa [Option.isNone_iff_eq_none, ← ne_eq, Option.ne_none_iff_isSome] at this
  rw [← hall, billPieces_ofServices, (costs_of_fitting h).2.2]

theorem billPieces_reference {r : Request} {services : List Service} {pieces : List (List Order)}
    (h : Fitting 2 (allLines services pieces.flatten)) :
    ReferenceBill r services pieces.flatten (billPieces r services false pieces).report
      (billPieces r services false pieces).skipped := by
  have hb := booked_merged r services false pieces
  have horders := merged_orders_of_fitting h (r := r)
  have hlines : (merged r services false pieces).lines = allLines services pieces.flatten := by
    unfold lines
    rw [horders, (costs_of_fitting h).2.1]
  have hhead : SameHead (blank r) (merged r services false pieces) := sameHead_merge ..
  have hfit : Fitting 2 (merged r services false pieces).lines := by rw [hlines]; exact h
  obtain ⟨total, htotal, hvalue⟩ := serviceSum_exact hb hfit
  rw [billPieces_report, billPieces_cancelled]
  refine ⟨hhead.customerId, hhead.start, hhead.stop, rfl, ?_, ?_, ?_, skipped_of_fitting h⟩
  · show List.Forall₂ _ _ (merged r services false pieces).orders
    rw [horders]
    exact (costs_of_fitting h).1
  · intro id
    show ((merged r services false pieces).serviceTotals.get? id).map _ = _
    have hname : nameIn (merged r services false pieces).serviceTotals id = _ := nameIn_tally hb.totals id
    rw [get?_eq_views, Option.map_map, hname, nameIn_empty, Option.none_or, ← hlines]
    cases firstName id (merged r services false pieces).lines with
    | none => rfl
    | some name => exact congrArg (fun x => some (name, x)) (amountIn_exact hb hfit id)
  · show ((merged r services false pieces).serviceSum.getD _).value = _
    rw [htotal, Option.getD_some, hvalue, hlines]

/-- Without services every bill is empty, whatever the orders. -/
theorem ReferenceBill.no_services {r : Request} {scope : List Order} {report : Report} {skipped : List Skipped}
    (h : ReferenceBill r [] [] report skipped) : ReferenceBill r [] scope report skipped := by
  have hlines : allLines [] scope = [] := List.flatMap_eq_nil_iff.mpr fun _ _ => rfl
  have hskipped : scope.flatMap (failuresOf []) = [] := List.flatMap_eq_nil_iff.mpr fun _ _ => rfl
  have horders : (scope.filter fun o => linesOf [] o ≠ []) = [] := by
    refine List.filter_eq_nil_iff.mpr ?_
    intro o _
    simp [linesOf]
  refine { h with orders := ?_, serviceTotals := ?_, total := ?_, skipped := ?_ }
  · rw [horders]; exact h.orders
  · rw [hlines]; exact h.serviceTotals
  · rw [hlines]; exact h.total
  · rw [hskipped]; exact h.skipped

/-- A run whose lines fit in cents gives the reference bill, with any number of workers. -/
theorem run_reference (catalog : Catalog) (settings : Settings) (available : Nat) (r : Request) (orders : List Order)
    (h : exactSum ((allLines (servicesFor catalog r) (ordersFor r orders)).map (·.amount)) * 100 ≤ maxCoefficient) :
    ReferenceBill r (servicesFor catalog r) (ordersFor r orders)
        (run catalog settings available r orders false).report
        (run catalog settings available r orders false).skipped ∧
      (run catalog settings available r orders false).listed settings =
        if settings.collectDiagnostics then (ordersFor r orders).flatMap (failuresOf (servicesFor catalog r))
        else [] := by
  obtain ⟨pieces, hrun, hpieces⟩ := run_cases catalog settings available r orders
  rw [selected_eq, inScope_eq] at hpieces
  rw [selected_eq] at hrun
  have hbill : ReferenceBill r (servicesFor catalog r) (ordersFor r orders)
      (run catalog settings available r orders false).report
      (run catalog settings available r orders false).skipped := by
    rw [hrun]
    rcases hpieces with ⟨hs, rfl⟩ | hp
    · rw [hs]
      have hnil : Fitting 2 (allLines [] ([] : List (List Order)).flatten) := .nil 2
      exact (billPieces_reference hnil).no_services
    · rw [← hp] at h ⊢
      exact billPieces_reference (allLines_fitting h)
  refine ⟨hbill, ?_⟩
  rw [Outcome.listed, hbill.skipped]

/-- Two lines of four cents on each of four orders. -/
theorem run_reference_small :
    exactSum ((allLines (servicesFor ⟨[Small.label, Small.tape]⟩ Small.request)
        (ordersFor Small.request Small.orders)).map (·.amount)) * 100 ≤ maxCoefficient ∧
      (run ⟨[Small.label, Small.tape]⟩ ⟨2, 1, true⟩ 2 Small.request Small.orders false).report.total.value = 8 / 25 :=
  ⟨by decide +kernel,
    (run_reference ⟨[Small.label, Small.tape]⟩ ⟨2, 1, true⟩ 2 Small.request Small.orders
      (by decide +kernel)).1.total.trans (by decide +kernel)⟩

end Tariff.Billing
