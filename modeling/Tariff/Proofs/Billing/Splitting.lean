/-
  Tariff.Proofs.Billing.Splitting — when splitting the work leaves the bill alone.

  A piece judges a cost by its own totals, before those of the pieces ahead of it are
  known. What it refuses stays refused, so a split bill is that of one piece exactly if no
  piece refuses what the one piece takes (`splitting_iff`); a piece can (`split_differs`).
-/
import Tariff.Proofs.Billing.Pieces

namespace Tariff.Billing

open Report

/-! ## Reports and entries by their verdicts -/

theorem splitVerdicts_single (r : Request) (services : List Service) (orders : List Order) :
    splitVerdicts r services [orders] = pieceVerdicts r services orders := by
  have hown : ownVerdicts r services [orders] = pieceVerdicts r services orders := List.append_nil _
  have hself : Echoed (pieceVerdicts r services orders) (pieceVerdicts r services orders) :=
    List.forall₂_same.mpr fun _ _ _ => rfl
  unfold splitVerdicts
  rw [hown, List.flatten_singleton]
  exact (judges_iff (length_pieceVerdicts r services orders)).mpr hself

/-- Costs that one piece refuses do not change what the pieces come to. -/
theorem billPieces_report_of_noStricter {r : Request} {services : List Service} {pieces : List (List Order)}
    (h : NoStricter (ownVerdicts r services pieces) (pieceVerdicts r services pieces.flatten)) :
    (billPieces r services false pieces).report =
      { ((blank r).merge (costs services pieces.flatten)).1.resummed with
        metadata := ⟨services.map (·.id), .epoch, false⟩ } := by
  have hmerged : merged r services false pieces = ((blank r).merge (costs services pieces.flatten)).1 := by
    unfold merged
    rw [taken_ownVerdicts]
    exact (verdicts_taken h).2
  rw [billPieces_report, billPieces_cancelled, hmerged]

theorem noStricter_single (r : Request) (services : List Service) (orders : List Order) :
    NoStricter (ownVerdicts r services [orders]) (pieceVerdicts r services [orders].flatten) := by
  rw [List.flatten_singleton, show ownVerdicts r services [orders] = pieceVerdicts r services orders from
    List.append_nil _]
  exact List.forall₂_same.mpr fun _ _ => id

theorem skipped_perm {xs ys : List Skipped} (hs : (ofServices xs).Perm (ofServices ys))
    (ho : (ofOrders xs).Perm (ofOrders ys)) : xs.Perm ys := by
  have parts (zs : List Skipped) : (ofServices zs ++ ofOrders zs).Perm zs := by
    have := List.filter_append_perm (fun x : Skipped => x.serviceId.isSome) zs
    simpa [ofServices, ofOrders] using this
  exact (parts xs).symm.trans ((hs.append ho).trans (parts ys))

theorem refusals_perm_of_rejected {xs ys : List Rejected} (h : (xs.map rejected).Perm (ys.map rejected)) :
    xs.Perm ys := by
  have back : (fun x : Skipped => (⟨x.orderId, x.reason⟩ : Rejected)) ∘ rejected = id := rfl
  have := h.map fun x : Skipped => (⟨x.orderId, x.reason⟩ : Rejected)
  rwa [List.map_map, List.map_map, back, List.map_id, List.map_id] at this

/-! ## One piece or many -/

/-- The pieces take the costs that one piece takes if and only if none of them, by its own totals, refuses one of
    those; the report is then the same. They refuse the others for the same reasons if and only if each refusal of
    a piece has the reason that one piece has, and the entries are then the same. Of distinct orders, the report
    and the entries are the same in no other case. -/
theorem splitting_iff (r : Request) (services : List Service) (pieces : List (List Order)) :
    let split := billPieces r services false pieces
    let whole := billPieces r services false [pieces.flatten]
    let own := ownVerdicts r services pieces
    let alone := pieceVerdicts r services pieces.flatten
    -- what becomes of each cost
    (split.report.orders = taken (splitVerdicts r services pieces) (costs services pieces.flatten) ∧
      whole.report.orders = taken alone (costs services pieces.flatten)) ∧
    -- the same costs are taken
    ((splitVerdicts r services pieces).map (·.isSome) = alone.map (·.isSome) ↔ NoStricter own alone) ∧
    (NoStricter own alone → split.report = whole.report) ∧
    -- and the others are refused for the same reasons
    (splitVerdicts r services pieces = alone ↔ Echoed own alone) ∧
    (Echoed own alone → split.report = whole.report ∧ split.skipped.Perm whole.skipped) ∧
    ((pieces.flatten.map (·.id)).Nodup →
      (split.report = whole.report ↔ NoStricter own alone) ∧
      (split.report = whole.report ∧ split.skipped.Perm whole.skipped ↔ Echoed own alone)) := by
  intro split whole own alone
  have hsingle := splitVerdicts_single r services pieces.flatten
  have hsplitOrders := billPieces_orders r services pieces
  have hwholeOrders := billPieces_orders r services [pieces.flatten]
  have hsplitRefused := billPieces_ofOrders r services pieces
  have hwholeRefused := billPieces_ofOrders r services [pieces.flatten]
  rw [List.flatten_singleton, hsingle] at hwholeOrders hwholeRefused
  have haccepts : (splitVerdicts r services pieces).map (·.isSome) = alone.map (·.isSome) ↔ NoStricter own alone :=
    accepts_iff (length_ownVerdicts r services pieces)
  have hjudges : splitVerdicts r services pieces = alone ↔ Echoed own alone :=
    judges_iff (length_ownVerdicts r services pieces)
  have hreport (h : NoStricter own alone) : split.report = whole.report := by
    have hw := billPieces_report_of_noStricter (noStricter_single r services pieces.flatten)
    rw [List.flatten_singleton] at hw
    exact (billPieces_report_of_noStricter h).trans hw.symm
  have hskipped (h : Echoed own alone) : split.skipped.Perm whole.skipped := by
    refine skipped_perm ?_ ?_
    · rw [billPieces_ofServices, billPieces_ofServices, List.flatten_singleton]
    · rw [hjudges.mpr h] at hsplitRefused
      exact hsplitRefused.trans hwholeRefused.symm
  refine ⟨⟨hsplitOrders, hwholeOrders⟩, haccepts, hreport, hjudges,
    fun h => ⟨hreport h.noStricter, hskipped h⟩, ?_⟩
  intro hids
  have hn := hids.sublist (costs_orderIds services pieces.flatten)
  have htaken (h : split.report = whole.report) :
      (splitVerdicts r services pieces).map (·.isSome) = alone.map (·.isSome) := by
    refine isSome_of_taken (length_splitVerdicts ..) (length_pieceVerdicts ..) hn ?_
    rw [← hsplitOrders, ← hwholeOrders]
    exact congrArg Report.orders h
  refine ⟨⟨fun h => haccepts.mp (htaken h), hreport⟩, ?_, fun h => ⟨hreport h.noStricter, hskipped h⟩⟩
  rintro ⟨hr, hs⟩
  have hp : (ofOrders split.skipped).Perm (ofOrders whole.skipped) := hs.filter _
  exact hjudges.mp (verdicts_ext (length_splitVerdicts ..) (length_pieceVerdicts ..) hn (htaken hr)
    (refusals_perm_of_rejected (hsplitRefused.symm.trans (hp.trans hwholeRefused))))

/-- There is room for the storage of three orders, however they are split. -/
theorem split_same :
    (billPieces Small.request [Small.storage] false [Small.orders.take 1, Small.orders.drop 2]).report =
      (billPieces Small.request [Small.storage] false
        [[Small.orders.take 1, Small.orders.drop 2].flatten]).report :=
  have h := splitting_iff Small.request [Small.storage] [Small.orders.take 1, Small.orders.drop 2]
  h.2.2.1 (h.2.1.mp (by decide +kernel))

/-- The second piece takes the third order, and so refuses the fourth one. The merge then has no room for the
    third, and would have had some for the fourth. -/
theorem split_differs :
    Catalog.ofServices [Small.storage, Small.freight] = .ok ⟨[Small.storage, Small.freight]⟩ ∧
      (billPieces Small.request [Small.storage, Small.freight] false
        [Small.orders.take 2, Small.orders.drop 2]).report.orders.map (·.orderId) = ["o-1", "o-2"] ∧
      (billPieces Small.request [Small.storage, Small.freight] false
        [Small.orders]).report.orders.map (·.orderId) = ["o-1", "o-2", "o-4"] :=
  ⟨rfl, by decide +kernel, by decide +kernel⟩

end Tariff.Billing
