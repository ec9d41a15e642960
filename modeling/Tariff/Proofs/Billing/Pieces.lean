/-
  Tariff.Proofs.Billing.Pieces — what a run in pieces comes to.

  A piece judges the costs of its orders against a report of its own; the merge judges
  those that are left again. `splitVerdicts` has the outcome of both for every cost of the
  run, and the report and the entries of a run follow from it.
  - `billPieces_orders` / `billPieces_ofOrders`: costs are billed or listed by their verdicts.
  - `billPieces_ofServices`: the entries of services are those of their orders.
  - `billPieces_report`: the report is a merge, its service totals summed anew.
-/
import Tariff.Proofs.Billing.Evaluation

namespace Tariff.Billing

open Report

/-! ## Entries -/

def ofServices (xs : List Skipped) : List Skipped := xs.filter (·.serviceId.isSome)

def ofOrders (xs : List Skipped) : List Skipped := xs.filter (·.serviceId.isNone)

@[simp] theorem ofServices_append (xs ys : List Skipped) : ofServices (xs ++ ys) = ofServices xs ++ ofServices ys :=
  List.filter_append ..

@[simp] theorem ofOrders_append (xs ys : List Skipped) : ofOrders (xs ++ ys) = ofOrders xs ++ ofOrders ys :=
  List.filter_append ..

@[simp] theorem ofServices_rejected (xs : List Rejected) : ofServices (xs.map rejected) = [] :=
  List.filter_eq_nil_iff.mpr (List.forall_mem_map.mpr fun _ _ => by simp [rejected])

@[simp] theorem ofOrders_rejected (xs : List Rejected) : ofOrders (xs.map rejected) = xs.map rejected :=
  List.filter_eq_self.mpr (List.forall_mem_map.mpr fun _ _ => rfl)

@[simp] theorem ofServices_evaluate (services : List Service) (o : Order) :
    ofServices (evaluate services o).2 = (evaluate services o).2 :=
  List.filter_eq_self.mpr fun _ hx => evaluate_skipped_serviceId hx

@[simp] theorem ofOrders_evaluate (services : List Service) (o : Order) : ofOrders (evaluate services o).2 = [] := by
  refine List.filter_eq_nil_iff.mpr ?_
  intro x hx
  rw [Option.isNone_iff_eq_none, ← Option.not_isSome_iff_eq_none]
  exact not_not.mpr (evaluate_skipped_serviceId hx)

/-! ## A piece -/

def costs (services : List Service) (orders : List Order) : List OrderCost :=
  orders.filterMap fun o => (evaluate services o).1

theorem costs_cons (services : List Service) (o : Order) (orders : List Order) :
    costs services (o :: orders) = (evaluate services o).1.toList ++ costs services orders := by
  unfold costs
  rw [List.filterMap_cons]
  cases (evaluate services o).1 <;> rfl

theorem costs_summed {services : List Service} {orders : List Order} {c : OrderCost} (h : c ∈ costs services orders) :
    c.Summed := by
  obtain ⟨o, -, ho⟩ := List.mem_filterMap.mp h
  exact (evaluate_cost ho).2.1

theorem costs_charged {services : List Service} {orders : List Order} {c : OrderCost} (h : c ∈ costs services orders)
    {l : ServiceCost} (hl : l ∈ c.lines) : Charged l := by
  obtain ⟨o, -, ho⟩ := List.mem_filterMap.mp h
  exact (evaluate_cost ho).2.2 l hl

theorem costs_orderIds (services : List Service) (orders : List Order) :
    ((costs services orders).map (·.orderId)).Sublist (orders.map (·.id)) := by
  induction orders with
  | nil => exact .slnil
  | cons o rest ih =>
    rw [costs_cons, List.map_append, List.map_cons]
    cases h : (evaluate services o).1 with
    | none => exact ih.cons o.id
    | some c =>
      rw [← (evaluate_cost h).1]
      exact ih.cons_cons c.orderId

structure Billed (services : List Service) (c : Chunk) (orders : List Order) (c' : Chunk) : Prop where
  report : c'.report = (c.report.merge (costs services orders)).1
  ofServices : ofServices c'.skipped = ofServices c.skipped ++ orders.flatMap fun o => (evaluate services o).2
  ofOrders : ofOrders c'.skipped = ofOrders c.skipped ++ (c.report.merge (costs services orders)).2.map rejected
  cancelled : c'.cancelled = c.cancelled

theorem billed_bill (services : List Service) (c : Chunk) (o : Order) : Billed services c [o] (c.bill services o) where
  report := by rw [costs_cons]; simp [costs, Chunk.bill]
  ofServices := by simp [Chunk.bill]
  ofOrders := by rw [costs_cons]; simp [costs, Chunk.bill]
  cancelled := rfl

theorem Billed.trans {services : List Service} {c d e : Chunk} {os ps : List Order} (h : Billed services c os d)
    (h' : Billed services d ps e) : Billed services c (os ++ ps) e := by
  have hm : c.report.merge (costs services (os ++ ps)) =
      ((d.report.merge (costs services ps)).1,
        (c.report.merge (costs services os)).2 ++ (d.report.merge (costs services ps)).2) := by
    rw [costs, List.filterMap_append, merge_append, h.report]
    rfl
  refine ⟨?_, ?_, ?_, h'.cancelled.trans h.cancelled⟩
  · rw [hm, h'.report]
  · rw [h'.ofServices, h.ofServices, List.flatMap_append, List.append_assoc]
  · rw [hm, h'.ofOrders, h.ofOrders, List.map_append, List.append_assoc]

theorem billed_foldl (services : List Service) (c : Chunk) (orders : List Order) :
    Billed services c orders (orders.foldl (Chunk.bill services) c) := by
  induction orders generalizing c with
  | nil => exact ⟨rfl, by simp, by simp [costs], rfl⟩
  | cons o rest ih => exact (billed_bill services c o).trans (ih (c.bill services o))

def blank (r : Request) : Report := .new r.customerId r.start r.stop

/-- Why each cost of a piece is refused by the piece, if it is. -/
def pieceVerdicts (r : Request) (services : List Service) (orders : List Order) : List Verdict :=
  (blank r).verdicts (costs services orders)

@[simp] theorem length_pieceVerdicts (r : Request) (services : List Service) (orders : List Order) :
    (pieceVerdicts r services orders).length = (costs services orders).length :=
  length_verdicts ..

theorem evaluateChunk_false (r : Request) (services : List Service) (orders : List Order) :
    evaluateChunk r services false orders = orders.foldl (Chunk.bill services) (Chunk.new r) := rfl

theorem evaluateChunk_orders (r : Request) (services : List Service) (orders : List Order) :
    (evaluateChunk r services false orders).report.orders =
      taken (pieceVerdicts r services orders) (costs services orders) := by
  rw [evaluateChunk_false, (billed_foldl services (Chunk.new r) orders).report, merge_orders]
  rfl

theorem evaluateChunk_ofServices (r : Request) (services : List Service) (orders : List Order) :
    ofServices (evaluateChunk r services false orders).skipped = orders.flatMap fun o => (evaluate services o).2 :=
  (billed_foldl services (Chunk.new r) orders).ofServices

theorem evaluateChunk_ofOrders (r : Request) (services : List Service) (orders : List Order) :
    ofOrders (evaluateChunk r services false orders).skipped =
      (refusals (pieceVerdicts r services orders) (costs services orders)).map rejected := by
  rw [evaluateChunk_false, (billed_foldl services (Chunk.new r) orders).ofOrders, merge_refused]
  rfl

/-! ## Merging the pieces -/

structure Absorbed (c : Chunk) (ds : List Chunk) (c' : Chunk) : Prop where
  report : c'.report = (c.report.merge (ds.flatMap (·.report.orders))).1
  ofServices : ofServices c'.skipped = ofServices c.skipped ++ ds.flatMap fun d => ofServices d.skipped
  ofOrders : (ofOrders c'.skipped).Perm (ofOrders c.skipped ++
    ((ds.flatMap fun d => ofOrders d.skipped) ++ (c.report.merge (ds.flatMap (·.report.orders))).2.map rejected))
  cancelled : c'.cancelled = (c.cancelled || ds.any (·.cancelled))

theorem absorbed_absorb (c d : Chunk) : Absorbed c [d] (absorb c d) where
  report := by simp [absorb]
  ofServices := by simp [absorb]
  ofOrders := by simp [absorb]
  cancelled := by simp [absorb]

theorem Absorbed.trans {c d e : Chunk} {ds es : List Chunk} (h : Absorbed c ds d) (h' : Absorbed d es e) :
    Absorbed c (ds ++ es) e := by
  refine ⟨?_, ?_, ?_, ?_⟩
  · rw [h'.report, h.report, List.flatMap_append, merge_append]
  · rw [h'.ofServices, h.ofServices, List.flatMap_append, List.append_assoc]
  · rw [List.flatMap_append, List.flatMap_append, merge_append, ← h.report, List.map_append]
    refine h'.ofOrders.trans ((h.ofOrders.append_right _).trans ?_)
    simp only [List.append_assoc]
    refine List.Perm.append_left _ (List.Perm.append_left _ ?_)
    -- the refusals of the first chunks move past the entries of the second ones
    rw [← List.append_assoc, ← List.append_assoc]
    exact List.perm_append_comm.append_right _
  · rw [h'.cancelled, h.cancelled, List.any_append, Bool.or_assoc]

theorem absorbed_foldl (c : Chunk) (ds : List Chunk) : Absorbed c ds (ds.foldl absorb c) := by
  induction ds generalizing c with
  | nil => exact ⟨rfl, by simp, by simp, by simp⟩
  | cons d rest ih => exact (absorbed_absorb c d).trans (ih (absorb c d))

/-! ## A run -/

def ownVerdicts (r : Request) (services : List Service) (pieces : List (List Order)) : List Verdict :=
  pieces.flatMap (pieceVerdicts r services)

/-- What becomes of each cost of a run in pieces. -/
def splitVerdicts (r : Request) (services : List Service) (pieces : List (List Order)) : List Verdict :=
  appealed (ownVerdicts r services pieces)
    ((blank r).verdicts (taken (ownVerdicts r services pieces) (costs services pieces.flatten)))

theorem ownVerdicts_cons (r : Request) (services : List Service) (p : List Order) (rest : List (List Order)) :
    ownVerdicts r services (p :: rest) = pieceVerdicts r services p ++ ownVerdicts r services rest :=
  List.flatMap_cons

theorem costs_flatten_cons (services : List Service) (p : List Order) (rest : List (List Order)) :
    costs services (p :: rest).flatten = costs services p ++ costs services rest.flatten := by
  rw [List.flatten_cons, costs, List.filterMap_append]
  rfl

@[simp] theorem length_ownVerdicts (r : Request) (services : List Service) (pieces : List (List Order)) :
    (ownVerdicts r services pieces).length = (costs services pieces.flatten).length := by
  induction pieces with
  | nil => rfl
  | cons p rest ih =>
    rw [ownVerdicts_cons, costs_flatten_cons, List.length_append, List.length_append, ih, length_pieceVerdicts]

@[simp] theorem length_splitVerdicts (r : Request) (services : List Service) (pieces : List (List Order)) :
    (splitVerdicts r services pieces).length = (costs services pieces.flatten).length := by
  unfold splitVerdicts
  simp

theorem taken_ownVerdicts (r : Request) (services : List Service) (pieces : List (List Order)) :
    ((pieces.map (evaluateChunk r services false)).flatMap (·.report.orders)) =
      taken (ownVerdicts r services pieces) (costs services pieces.flatten) := by
  induction pieces with
  | nil => rfl
  | cons p rest ih =>
    rw [List.map_cons, List.flatMap_cons, ih, evaluateChunk_orders, ownVerdicts_cons, costs_flatten_cons,
      taken_append (length_pieceVerdicts r services p)]

theorem refusals_ownVerdicts (r : Request) (services : List Service) (pieces : List (List Order)) :
    ((pieces.map (evaluateChunk r services false)).flatMap fun c => ofOrders c.skipped) =
      (refusals (ownVerdicts r services pieces) (costs services pieces.flatten)).map rejected := by
  induction pieces with
  | nil => rfl
  | cons p rest ih =>
    rw [List.map_cons, List.flatMap_cons, ih, evaluateChunk_ofOrders, ownVerdicts_cons, costs_flatten_cons,
      refusals_append (length_pieceVerdicts r services p), List.map_append]

theorem flatMap_ofServices (r : Request) (services : List Service) (pieces : List (List Order)) :
    ((pieces.map (evaluateChunk r services false)).flatMap fun c => ofServices c.skipped) =
      pieces.flatten.flatMap fun o => (evaluate services o).2 := by
  induction pieces with
  | nil => rfl
  | cons p rest ih =>
    rw [List.map_cons, List.flatMap_cons, ih, evaluateChunk_ofServices, List.flatten_cons, List.flatMap_append]

def merged (r : Request) (services : List Service) (cancelled : Bool) (pieces : List (List Order)) : Report :=
  ((blank r).merge ((pieces.map (evaluateChunk r services cancelled)).flatMap (·.report.orders))).1

theorem mem_evaluateChunk_orders {r : Request} {services : List Service} {cancelled : Bool} {orders : List Order}
    {c : OrderCost} (h : c ∈ (evaluateChunk r services cancelled orders).report.orders) :
    c ∈ costs services orders := by
  unfold evaluateChunk at h
  split at h
  · cases h
  · rw [(billed_foldl services (Chunk.new r) orders).report, merge_orders] at h
    exact (taken_sublist _ _).subset h

theorem mem_pieces_orders {r : Request} {services : List Service} {cancelled : Bool} {pieces : List (List Order)}
    {c : OrderCost} (h : c ∈ (pieces.map (evaluateChunk r services cancelled)).flatMap (·.report.orders)) :
    c ∈ costs services pieces.flatten := by
  obtain ⟨d, hd, hc⟩ := List.mem_flatMap.mp h
  obtain ⟨p, hp, rfl⟩ := List.mem_map.mp hd
  obtain ⟨o, ho, he⟩ := List.mem_filterMap.mp (mem_evaluateChunk_orders hc)
  exact List.mem_filterMap.mpr ⟨o, List.mem_flatten.mpr ⟨p, hp, ho⟩, he⟩

theorem merged_orders_subset {r : Request} {services : List Service} {cancelled : Bool} {pieces : List (List Order)}
    {c : OrderCost} (h : c ∈ (merged r services cancelled pieces).orders) : c ∈ costs services pieces.flatten := by
  unfold merged at h
  rw [merge_orders] at h
  exact mem_pieces_orders ((taken_sublist _ _).subset h)

theorem booked_merged (r : Request) (services : List Service) (cancelled : Bool) (pieces : List (List Order)) :
    Booked (merged r services cancelled pieces) :=
  booked_merge (booked_new ..) fun _ hc => costs_summed (mem_pieces_orders hc)

theorem merged_charged {r : Request} {services : List Service} {cancelled : Bool} {pieces : List (List Order)}
    {l : ServiceCost} (h : l ∈ (merged r services cancelled pieces).lines) : Charged l := by
  obtain ⟨c, hc, hl⟩ := List.mem_flatMap.mp h
  exact costs_charged (merged_orders_subset hc) hl

theorem billPieces_report (r : Request) (services : List Service) (cancelled : Bool) (pieces : List (List Order)) :
    (billPieces r services cancelled pieces).report =
      { (merged r services cancelled pieces).resummed with
        metadata := ⟨services.map (·.id), .epoch, (billPieces r services cancelled pieces).cancelled⟩ } := by
  have ha := absorbed_foldl (Chunk.new r) (pieces.map (evaluateChunk r services cancelled))
  have hm : ((pieces.map (evaluateChunk r services cancelled)).foldl absorb (Chunk.new r)).report =
      merged r services cancelled pieces := ha.report
  have hc : (combine r (pieces.map (evaluateChunk r services cancelled))).report =
      (merged r services cancelled pieces).resummed := by
    simp only [combine, hm, recompute_of_booked (booked_merged r services cancelled pieces), resummed]
    cases (merged r services cancelled pieces).serviceSum <;> rfl
  have hhead := sameHead_merge (blank r) ((pieces.map (evaluateChunk r services cancelled)).flatMap (·.report.orders))
  have hmeta : (merged r services cancelled pieces).resummed.metadata = (blank r).metadata := hhead.metadata
  unfold billPieces
  simp only [hc, hmeta]
  rfl

theorem merged_orders (r : Request) (services : List Service) (pieces : List (List Order)) :
    (merged r services false pieces).orders =
      taken (splitVerdicts r services pieces) (costs services pieces.flatten) := by
  unfold merged splitVerdicts
  rw [taken_ownVerdicts, merge_orders, taken_appealed (length_ownVerdicts ..) (length_verdicts ..)]
  rfl

theorem billPieces_orders (r : Request) (services : List Service) (pieces : List (List Order)) :
    (billPieces r services false pieces).report.orders =
      taken (splitVerdicts r services pieces) (costs services pieces.flatten) := by
  rw [billPieces_report]
  exact merged_orders r services pieces

theorem billPieces_ofServices (r : Request) (services : List Service) (pieces : List (List Order)) :
    ofServices (billPieces r services false pieces).skipped =
      pieces.flatten.flatMap fun o => (evaluate services o).2 := by
  have h := (absorbed_foldl (Chunk.new r) (pieces.map (evaluateChunk r services false))).ofServices
  rw [flatMap_ofServices] at h
  exact h

theorem billPieces_ofOrders (r : Request) (services : List Service) (pieces : List (List Order)) :
    (ofOrders (billPieces r services false pieces).skipped).Perm
      ((refusals (splitVerdicts r services pieces) (costs services pieces.flatten)).map rejected) := by
  have h := (absorbed_foldl (Chunk.new r) (pieces.map (evaluateChunk r services false))).ofOrders
  rw [refusals_ownVerdicts, taken_ownVerdicts, merge_refused] at h
  refine h.trans ?_
  have hp := refusals_appealed (length_ownVerdicts r services pieces) (length_verdicts (blank r) _)
  have := (hp.map rejected).symm
  rw [List.map_append] at this
  exact this

theorem billPieces_cancelled (r : Request) (services : List Service) (pieces : List (List Order)) :
    (billPieces r services false pieces).cancelled = false := by
  have h := (absorbed_foldl (Chunk.new r) (pieces.map (evaluateChunk r services false))).cancelled
  refine h.trans (List.any_eq_false.mpr (List.forall_mem_map.mpr ?_))
  intro p _
  rw [evaluateChunk_false, (billed_foldl services (Chunk.new r) p).cancelled]
  exact Bool.false_ne_true

def selected (catalog : Catalog) (r : Request) : List Service := catalog.select r.customerId r.included

def inScope (r : Request) (orders : List Order) : List Order := orders.filter r.covers

theorem run_eq (catalog : Catalog) (settings : Settings) (available : Nat) (r : Request) (orders : List Order)
    (cancelled : Bool) :
    run catalog settings available r orders cancelled = billPieces r (selected catalog r) cancelled
      (if (selected catalog r).isEmpty then []
        else chunks (settings.workersFor available (inScope r orders).length) (inScope r orders)) := rfl

/-- A run bills the orders in scope in some pieces, unless no service is selected. -/
theorem run_cases (catalog : Catalog) (settings : Settings) (available : Nat) (r : Request) (orders : List Order) :
    ∃ pieces, (∀ cancelled, run catalog settings available r orders cancelled =
        billPieces r (selected catalog r) cancelled pieces) ∧
      ((selected catalog r = [] ∧ pieces = []) ∨ pieces.flatten = inScope r orders) := by
  by_cases hs : (selected catalog r).isEmpty
  · refine ⟨[], fun cancelled => ?_, .inl ⟨List.isEmpty_iff.mp hs, rfl⟩⟩
    rw [run_eq, if_pos hs]
  · refine ⟨chunks (settings.workersFor available (inScope r orders).length) (inScope r orders),
      fun cancelled => ?_, .inr (flatten_chunks (settings.workersFor_pos _ _) _)⟩
    rw [run_eq, if_neg hs]

@[simp] theorem costs_no_services (orders : List Order) : costs [] orders = [] :=
  List.filterMap_eq_nil_iff.mpr fun _ _ => rfl

/-! ## Small runs -/

namespace Small

def service (serviceId name : String) (coefficient scale : Nat) (carrier : Option String) : Service where
  id := "cs-" ++ serviceId
  customerId := "c-1"
  serviceId
  serviceName := name
  unitPrice := (Decimal.ofParts false coefficient scale).getD .zero
  active := true
  ruleGroups := carrier.toList.map fun c => ⟨.all, [.condition ⟨.text .carrier, .eq, [c]⟩]⟩
  calculations := []

def order (id : String) (carrier : Option String) : Order :=
  carrier.toList.foldl (fun o c => o.withText (.text .carrier) c) (.new id "c-1" ⟨2024, 1, 5, by decide⟩)

def request : Request := ⟨"c-1", ⟨2024, 1, 1, by decide⟩, ⟨2024, 1, 31, by decide⟩, none⟩

def label : Service := service "a" "Label" 4 2 none

def tape : Service := service "b" "Tape" 4 2 none

def storage : Service := service "a" "Storage" 20000000000000000000000000000 0 none

def freight : Service := service "b" "Freight" 50000000000000000000000000000 0 (some "UPS")

/-- Only the third order has freight. A report holds less than eighty octillions. -/
def orders : List Order := [order "o-1" none, order "o-2" none, order "o-3" (some "UPS"), order "o-4" none]

end Small

end Tariff.Billing
