/-
  Tariff.Proofs.Billing.Accounting — no charge is lost or billed twice.

  A cost can be turned away by its piece or by the merge, and a line by the total of its
  order. Each leaves one entry and nothing else, whatever overflows and however the orders
  are split (`Accounted`, `run_accounted`).
-/
import Tariff.Proofs.Billing.Pieces

namespace Tariff.Billing

open Report

/-! ## Where costs go -/

theorem diff_append_self {α : Type} [BEq α] [LawfulBEq α] (as bs : List α) : (as ++ bs).diff as = bs := by
  induction as with
  | nil => rfl
  | cons a as ih => rw [List.cons_append, List.diff_cons, List.erase_cons_head, ih]

/-- The costs that are not taken, as many times as they are there. -/
theorem diff_taken {vs : List Verdict} {cs : List OrderCost} (h : vs.length = cs.length) :
    (cs.diff (taken vs cs)).Perm (turnedAway vs cs) := by
  have := (taken_append_turnedAway h).symm.diff_right (taken vs cs)
  rwa [diff_append_self] at this

structure Accounted (services : List Service) (orders : List Order) (report : Report) (skipped : List Skipped) :
    Prop where
  /-- The report has costs as they were evaluated, in their order. -/
  billed : report.orders.Sublist (costs services orders)
  /-- There is one entry of a whole order for each of the other costs. -/
  refused : ((ofOrders skipped).map (·.orderId)).Perm (((costs services orders).diff report.orders).map (·.orderId))
  /-- There is one entry of a service for each charge that failed or that the order could not take. -/
  leftOut : ofServices skipped = orders.flatMap fun o => leftOuts o .zero services

theorem billPieces_accounted (r : Request) (services : List Service) (pieces : List (List Order)) :
    Accounted services pieces.flatten (billPieces r services false pieces).report
      (billPieces r services false pieces).skipped := by
  have hl := length_splitVerdicts r services pieces
  have horders := billPieces_orders r services pieces
  refine ⟨?_, ?_, ?_⟩
  · rw [horders]
    exact taken_sublist _ _
  · rw [horders]
    have hrefused := (billPieces_ofOrders r services pieces).map (·.orderId)
    rw [List.map_map] at hrefused
    refine hrefused.trans ?_
    show ((refusals _ _).map (·.orderId)).Perm _
    rw [map_orderId_refusals]
    exact ((diff_taken hl).map _).symm
  · rw [billPieces_ofServices]
    exact List.flatMap_congr fun o _ => evaluate_skipped services o

/-- Without services there is nothing to account for, in whatever orders. -/
theorem Accounted.no_services {orders : List Order} {report : Report} {skipped : List Skipped}
    (h : Accounted [] [] report skipped) : Accounted [] orders report skipped where
  billed := by rw [costs_no_services]; exact h.billed
  refused := by rw [costs_no_services]; exact h.refused
  leftOut := h.leftOut.trans (List.flatMap_eq_nil_iff.mpr fun _ _ => rfl).symm

/-- Every cost of a run is billed once or listed once, and every charge left out is listed once. -/
theorem run_accounted (catalog : Catalog) (settings : Settings) (available : Nat) (r : Request) (orders : List Order)
    (hd : settings.collectDiagnostics = true) :
    Accounted (selected catalog r) (inScope r orders) (run catalog settings available r orders false).report
        ((run catalog settings available r orders false).listed settings) ∧
      ∀ pieces : List (List Order), pieces.flatten = inScope r orders →
        Accounted (selected catalog r) (inScope r orders) (billPieces r (selected catalog r) false pieces).report
          ((billPieces r (selected catalog r) false pieces).listed settings) := by
  have listed (o : Outcome) : o.listed settings = o.skipped := by rw [Outcome.listed, hd]; rfl
  constructor
  · obtain ⟨pieces, hrun, hpieces⟩ := run_cases catalog settings available r orders
    rw [listed, hrun]
    have h := billPieces_accounted r (selected catalog r) pieces
    rcases hpieces with ⟨hs, rfl⟩ | hp
    · rw [hs] at h ⊢
      exact h.no_services
    · rwa [hp] at h
  · intro pieces hp
    rw [listed, ← hp]
    exact billPieces_accounted r (selected catalog r) pieces

/-- Two of four costs are refused, one by its piece and one by the merge. -/
theorem run_accounted_small :
    (Settings.mk 2 1 true).collectDiagnostics = true ∧
      [Small.orders.take 2, Small.orders.drop 2].flatten = inScope Small.request Small.orders ∧
      Accounted (selected ⟨[Small.storage, Small.freight]⟩ Small.request) (inScope Small.request Small.orders)
        (billPieces Small.request (selected ⟨[Small.storage, Small.freight]⟩ Small.request) false
          [Small.orders.take 2, Small.orders.drop 2]).report
        ((billPieces Small.request (selected ⟨[Small.storage, Small.freight]⟩ Small.request) false
          [Small.orders.take 2, Small.orders.drop 2]).listed ⟨2, 1, true⟩) ∧
      ((run ⟨[Small.storage, Small.freight]⟩ ⟨2, 1, true⟩ 2 Small.request Small.orders false).listed
        ⟨2, 1, true⟩).map (·.orderId) = ["o-4", "o-3"] :=
  ⟨rfl, rfl, (run_accounted ⟨[Small.storage, Small.freight]⟩ ⟨2, 1, true⟩ 2 Small.request Small.orders rfl).2
    [Small.orders.take 2, Small.orders.drop 2] rfl, by decide +kernel⟩

end Tariff.Billing
