/-
  Tariff.Proofs.Report.Books — calls on reports, and the reports that they make.

  A call is known by one equation that says all it can do (`OrderCost.run_push`, `run_add`,
  `run_recompute`). Each of them reads and adds up first: what fails finds the report as it
  was before the call, and leaves it so.
  - `run_stage` / `run_settle`: the loop that only reads and the one that only writes.
  - `add_error` / `recompute_error`: a call that fails has written nothing.

  A report that was made by adding costs is in order (`Booked`): its service totals are
  those of its lines, and the total of each of its costs is the sum of that cost's lines.
  Adding keeps this, whatever overflows on the way, and a rebuild then changes the total
  only.
  - `booked_add` / `booked_merge`: adding keeps a report in order.
  - `recompute_of_booked`: what a rebuild does to such a report.
-/
import Tariff.Proofs.Report.Totals

namespace Tariff

def OrderCost.Summed (c : OrderCost) : Prop := c.lineSum = some c.total

/-- One more line in a cost and in its total. -/
theorem OrderCost.Summed.add {c : OrderCost} {l : ServiceCost} {total : Decimal} (hc : c.Summed)
    (h : c.total.add l.amount = some total) : OrderCost.Summed { c with lines := c.lines ++ [l], total } := by
  have hsum : (c.lines.map (·.amount)).foldlM Decimal.add .zero = some c.total := hc
  show ((c.lines ++ [l]).map (·.amount)).foldlM Decimal.add .zero = some total
  rw [List.map_append, List.foldlM_append, hsum]
  simpa using h

/-- All that `push` can do: a line that does not fit leaves the total as it was, too. -/
theorem OrderCost.run_push (c : OrderCost) (l : ServiceCost) :
    (OrderCost.push l).run c = match c.total.add l.amount with
      | some total => .ok () { c with lines := c.lines ++ [l], total }
      | none => .error (.overflow .orderTotal) c := by
  simp only [OrderCost.push, EStateM.run_bind, EStateM.run_get]
  cases c.total.add l.amount <;> rfl

namespace Report

def lines (r : Report) : List ServiceCost := r.orders.flatMap (·.lines)

structure Booked (r : Report) : Prop where
  totals : r.lines.foldlM tally .empty = .ok r.serviceTotals
  costs : ∀ c ∈ r.orders, c.Summed

/-! ## Adding -/

/-- Staging reads the report and no more, also where it fails. -/
theorem run_stage (r : Report) (ls : List ServiceCost) (staged : Table Decimal) :
    (ls.foldlM (fun staged line => do ofExcept ((← get).stage staged line)) staged :
      EStateM ChargeError Report (Table Decimal)).run r =
      match ls.foldlM r.stage staged with
      | .ok staged => .ok staged r
      | .error e => .error e r := by
  induction ls generalizing staged with
  | nil => rfl
  | cons l ls ih =>
    simp only [List.foldlM_cons, EStateM.run_bind, EStateM.run_get]
    -- the next line finds the report that this one found
    cases r.stage staged l with
    | error e => rfl
    | ok next => exact ih next

/-- Settling writes the service totals and no more. -/
theorem run_settle (staged : Table Decimal) (ls : List ServiceCost) (r : Report) :
    (ls.forM fun line => modify fun r => { r with serviceTotals := settle staged r.serviceTotals line } :
      EStateM ChargeError Report Unit).run r =
      .ok () { r with serviceTotals := ls.foldl (settle staged) r.serviceTotals } := by
  induction ls generalizing r with
  | nil => rfl
  | cons l ls ih => exact ih _

/-- All that `add` can do: it fails before anything is written, or all of it is. -/
theorem run_add (r : Report) (c : OrderCost) :
    (add c).run r = match c.lines.foldlM r.stage .empty with
      | .error e => .error e r
      | .ok staged => match r.stagedTotal staged with
        | .error e => .error e r
        | .ok total => .ok () { r with
            serviceTotals := c.lines.foldl (settle staged) r.serviceTotals
            orders := r.orders ++ [c]
            total } := by
  rw [add, EStateM.run_bind, run_stage]
  cases c.lines.foldlM r.stage .empty with
  | error e => rfl
  | ok staged =>
    simp only [EStateM.run_bind, EStateM.run_get]
    cases r.stagedTotal staged with
    | error e => rfl
    | ok total =>
      simp only [ofExcept, EStateM.run_pure, run_settle, EStateM.run_modify]

/-- A cost that is refused leaves no trace. -/
theorem add_error {r r' : Report} {c : OrderCost} {e : ChargeError} (h : (add c).run r = .error e r') : r' = r := by
  rw [run_add] at h
  split at h
  · cases h; rfl
  · split at h <;> cases h
    rfl

theorem add_of_staged {r : Report} {c : OrderCost} {staged : Table Decimal} {total : Decimal}
    (hs : c.lines.foldlM r.stage .empty = .ok staged) (ht : r.stagedTotal staged = .ok total) :
    (add c).run r = .ok () { r with
      serviceTotals := c.lines.foldl (settle staged) r.serviceTotals
      orders := r.orders ++ [c]
      total } := by
  simp only [run_add, hs, ht]

/-- A successful `add` staged the lines, summed the totals with them, and settled them. -/
theorem add_staged {r r' : Report} {c : OrderCost} (h : (add c).run r = .ok () r') :
    ∃ staged total, c.lines.foldlM r.stage .empty = .ok staged ∧ r.stagedTotal staged = .ok total ∧
      r' = { r with
        serviceTotals := c.lines.foldl (settle staged) r.serviceTotals
        orders := r.orders ++ [c]
        total } := by
  rw [run_add] at h
  split at h
  · cases h
  · rename_i staged hs
    split at h
    · cases h
    · rename_i total ht
      cases h
      exact ⟨staged, total, hs, ht, rfl⟩

/-- What a successful `add` does. -/
theorem add_ok {r r' : Report} {c : OrderCost} (h : (add c).run r = .ok () r') :
    ∃ t total, c.lines.foldlM tally r.serviceTotals = .ok t ∧
      r' = { r with serviceTotals := t, orders := r.orders ++ [c], total } := by
  obtain ⟨staged, total, hs, -, rfl⟩ := add_staged h
  obtain ⟨t, ht⟩ := (stage_ok_iff_tally_ok r c.lines).mp ⟨staged, hs⟩
  exact ⟨t, total, ht, by rw [settle_eq_tally hs ht]⟩

theorem lines_add {r r' : Report} {c : OrderCost} (h : (add c).run r = .ok () r') : r'.lines = r.lines ++ c.lines := by
  obtain ⟨t, total, -, rfl⟩ := add_ok h
  simp [lines]

theorem booked_new (customerId : String) (start stop : Date) : Booked (new customerId start stop) := by
  refine ⟨rfl, ?_⟩
  intro c hc
  cases hc

theorem booked_add {r r' : Report} {c : OrderCost} (hr : Booked r) (hc : c.Summed) (h : (add c).run r = .ok () r') :
    Booked r' := by
  obtain ⟨t, total, ht, rfl⟩ := add_ok h
  refine ⟨?_, ?_⟩
  · show ((r.orders ++ [c]).flatMap (·.lines)).foldlM tally .empty = .ok t
    rw [List.flatMap_append, List.foldlM_append]
    have hlines : (r.orders.flatMap (·.lines)).foldlM tally .empty = .ok r.serviceTotals := hr.totals
    rw [hlines, List.flatMap_cons, List.flatMap_nil, List.append_nil]
    exact ht
  · intro d hd
    rcases List.mem_append.mp hd with hd | hd
    · exact hr.costs d hd
    · rw [List.mem_singleton.mp hd]; exact hc

structure SameHead (r r' : Report) : Prop where
  customerId : r'.customerId = r.customerId
  start : r'.start = r.start
  stop : r'.stop = r.stop
  metadata : r'.metadata = r.metadata

theorem sameHead_add {r r' : Report} {c : OrderCost} (h : (add c).run r = .ok () r') : SameHead r r' := by
  obtain ⟨t, total, -, rfl⟩ := add_ok h
  exact ⟨rfl, rfl, rfl, rfl⟩

/-! ## Adding many -/

theorem addOrReject_ok {r r' : Report} {c : OrderCost} (h : (add c).run r = .ok () r') (xs : List Rejected) :
    addOrReject (r, xs) c = (r', xs) := by
  simp only [addOrReject, h]

theorem addOrReject_error {r r' : Report} {c : OrderCost} {e : ChargeError} (h : (add c).run r = .error e r')
    (xs : List Rejected) : addOrReject (r, xs) c = (r, xs ++ [⟨c.orderId, e⟩]) := by
  simp only [addOrReject, h, add_error h]

/-- Refusals are only noted. -/
theorem foldl_addOrReject (costs : List OrderCost) (r : Report) (xs : List Rejected) :
    costs.foldl addOrReject (r, xs) = ((r.merge costs).1, xs ++ (r.merge costs).2) := by
  unfold merge
  induction costs generalizing r xs with
  | nil => simp
  | cons c rest ih =>
    simp only [List.foldl_cons]
    cases h : (add c).run r with
    | ok _ r' =>
      rw [addOrReject_ok h, addOrReject_ok h]
      exact ih r' xs
    | error e r' =>
      rw [addOrReject_error h, addOrReject_error h, ih r (xs ++ [_]), ih r ([] ++ [_]), List.nil_append,
        List.append_assoc]

@[simp] theorem merge_nil (r : Report) : r.merge [] = (r, []) := rfl

theorem merge_cons (r : Report) (c : OrderCost) (rest : List OrderCost) :
    r.merge (c :: rest) = match (add c).run r with
      | .ok () r' => r'.merge rest
      | .error e _ => ((r.merge rest).1, ⟨c.orderId, e⟩ :: (r.merge rest).2) := by
  show (c :: rest).foldl addOrReject (r, []) = _
  rw [List.foldl_cons]
  cases h : (add c).run r with
  | ok _ r' =>
    rw [addOrReject_ok h]
    exact foldl_addOrReject rest r' []
  | error e r' =>
    rw [addOrReject_error h]
    exact foldl_addOrReject rest r [_]

theorem merge_append (r : Report) (as bs : List OrderCost) :
    r.merge (as ++ bs) = (((r.merge as).1.merge bs).1, (r.merge as).2 ++ ((r.merge as).1.merge bs).2) := by
  show (as ++ bs).foldl addOrReject (r, []) = _
  rw [List.foldl_append, foldl_addOrReject as, foldl_addOrReject bs]
  simp

/-- What holds of a report and is kept by every successful `add` holds after a merge. -/
theorem merge_induction {P : Report → Prop} {r : Report} {costs : List OrderCost} (hr : P r)
    (hadd : ∀ c ∈ costs, ∀ s s', P s → (add c).run s = .ok () s' → P s') : P (r.merge costs).1 := by
  induction costs generalizing r with
  | nil => exact hr
  | cons c rest ih =>
    have hrest : ∀ d ∈ rest, ∀ s s', P s → (add d).run s = .ok () s' → P s' := by
      intro d hd
      exact hadd d (List.mem_cons_of_mem c hd)
    rw [merge_cons]
    cases h : (add c).run r with
    | ok _ r' => exact ih (hadd c List.mem_cons_self r r' hr h) hrest
    | error => exact ih hr hrest

theorem booked_merge {r : Report} {costs : List OrderCost} (hr : Booked r) (hc : ∀ c ∈ costs, c.Summed) :
    Booked (r.merge costs).1 :=
  merge_induction hr fun c hm _ _ hs h => booked_add hs (hc c hm) h

theorem sameHead_merge (r : Report) (costs : List OrderCost) : SameHead r (r.merge costs).1 := by
  refine merge_induction ⟨rfl, rfl, rfl, rfl⟩ fun c _ s s' hs h => ?_
  have := sameHead_add h
  exact ⟨this.customerId.trans hs.customerId, this.start.trans hs.start, this.stop.trans hs.stop,
    this.metadata.trans hs.metadata⟩

/-! ## Rebuilding -/

/-- The loop over the orders: the sum of each of them, and one tally of all lines. -/
theorem tallyOrders_eq_ok_iff {costs : List OrderCost} {s t : Table ServiceTotal} {sums : List Decimal} :
    tallyOrders s costs = .ok (sums, t) ↔
      costs.map OrderCost.lineSum = sums.map some ∧ (costs.flatMap (·.lines)).foldlM tally s = .ok t := by
  induction costs generalizing s sums with
  | nil =>
    simp only [tallyOrders, List.map_nil, List.flatMap_nil, List.foldlM_nil, pure, Except.pure, Except.ok.injEq,
      Prod.mk.injEq]
    rw [eq_comm (a := []) (b := List.map some sums), List.map_eq_nil_iff, eq_comm (a := sums)]
  | cons c rest ih =>
    rw [List.map_cons, List.flatMap_cons, List.foldlM_append]
    cases hsum : c.lineSum with
    | none =>
      have hhead : none :: rest.map OrderCost.lineSum ≠ sums.map some := by
        cases sums <;> simp
      simp [tallyOrders, tallyOrder, hsum, hhead, Amount.orOverflow, bind, Except.bind]
    | some sum =>
      cases hlines : c.lines.foldlM tally s with
      | error e => simp [tallyOrders, tallyOrder, hsum, hlines, bind, Except.bind]
      | ok u =>
        -- the first order is summed, and the others go on from its tally
        have hloop : tallyOrders s (c :: rest) = (tallyOrders u rest).map fun x => (sum :: x.1, x.2) := by
          simp only [tallyOrders, tallyOrder, hsum, hlines, Amount.orOverflow_some, bind, Except.bind, pure, Except.pure]
          cases tallyOrders u rest <;> rfl
        rw [hloop]
        show _ ↔ _ ∧ (rest.flatMap (·.lines)).foldlM tally u = .ok t
        cases sums with
        | nil => cases tallyOrders u rest <;> simp [Except.map]
        | cons first sums =>
          rw [List.map_cons, List.cons.injEq, Option.some.injEq, and_assoc, ← ih (s := u)]
          cases tallyOrders u rest with
          | error e => simp [Except.map]
          | ok x =>
            obtain ⟨xs, y⟩ := x
            simp [Except.map, and_assoc]

theorem tallyOrders_of_summed {costs : List OrderCost} {s t : Table ServiceTotal} (hc : ∀ c ∈ costs, c.Summed)
    (ht : (costs.flatMap (·.lines)).foldlM tally s = .ok t) :
    tallyOrders s costs = .ok (costs.map (·.total), t) := by
  refine tallyOrders_eq_ok_iff.mpr ⟨?_, ht⟩
  rw [List.map_map]
  exact List.map_congr_left hc

theorem corrected_total (c : OrderCost) : c.corrected c.total = c := by
  simp [OrderCost.corrected, Decimal.same]

/-- All that `recompute` can do: it fails before anything is written, or all of it is. -/
theorem run_recompute (r : Report) :
    recompute.run r = match tallyOrders .empty r.orders with
      | .error e => .error e r
      | .ok (sums, serviceTotals) =>
        match Amount.reportTotal.orOverflow (Decimal.sum (serviceTotals.values.map (·.amount))) with
        | .error e => .error e r
        | .ok total => .ok () { r with
            orders := r.orders.zipWith OrderCost.corrected sums
            serviceTotals
            total } := by
  simp only [recompute, EStateM.run_bind, EStateM.run_get]
  cases tallyOrders .empty r.orders with
  | error e => rfl
  | ok result =>
    obtain ⟨sums, serviceTotals⟩ := result
    simp only [ofExcept, EStateM.run_pure]
    cases Amount.reportTotal.orOverflow (Decimal.sum (serviceTotals.values.map (·.amount))) <;> rfl

/-- A rebuild that fails leaves no trace. -/
theorem recompute_error {r r' : Report} {e : ChargeError} (h : recompute.run r = .error e r') : r' = r := by
  rw [run_recompute] at h
  split at h
  · cases h; rfl
  · split at h <;> cases h
    rfl

/-- A rebuild of a report in order sums the service totals anew and changes nothing else. -/
theorem recompute_of_booked {r : Report} (h : Booked r) :
    recompute.run r = match Amount.reportTotal.orOverflow r.serviceSum with
      | .ok total => .ok () { r with total }
      | .error e => .error e r := by
  have ht := tallyOrders_of_summed h.costs h.totals
  have hz : r.orders.zipWith OrderCost.corrected (r.orders.map (·.total)) = r.orders := by
    rw [List.zipWith_map_right, List.zipWith_self]
    exact (List.map_congr_left fun c _ => corrected_total c).trans (List.map_id _)
  simp only [run_recompute, ht, hz, serviceSum]
  cases Amount.reportTotal.orOverflow (Decimal.sum (r.serviceTotals.values.map (·.amount))) <;> rfl

/-- The report with its service totals summed anew, where they have a sum. -/
def resummed (r : Report) : Report := { r with total := r.serviceSum.getD r.total }

end Report

end Tariff
