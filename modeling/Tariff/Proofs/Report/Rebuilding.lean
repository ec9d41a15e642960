/-
  Tariff.Proofs.Report.Rebuilding — what a rebuild does to a report, in any state.

  A rebuild reads nothing but the lines. It asks for the sum of each order, for the sum of
  each service over all orders, and for the sum of those in ascending order of the services
  (`Summable`). If one of them overflows the report is left as it was; else they become its
  totals and nothing else changes (`Repaired`).
  - `byService_of_tally`: the service totals of tallied lines, summed service by service.
  - `recompute_eq_ok_iff`: the loop over the orders, as sums of lists.
  - `repaired_of_recompute` / `recompute_of_recompute`: what a rebuild leaves, and that
    another one finds nothing to do.
  - `rebuiltTotals_of_sameLines`: stale totals do not matter.
  - `recompute_repairs`: all of it.
-/
import Tariff.Proofs.Report.Books

namespace Tariff

namespace OrderCost

/-- As a number, the total is the sum of the lines. -/
def Agrees (c : OrderCost) : Prop := ∃ sum, c.lineSum = some sum ∧ c.total.same sum = true

def repaired (c : OrderCost) : OrderCost := c.corrected (c.lineSum.getD .zero)

/-- Only the total is touched. -/
theorem repaired_eq (c : OrderCost) : c.repaired = { c with total := c.repaired.total } := by
  unfold repaired corrected
  split_ifs <;> rfl

@[simp] theorem lines_repaired (c : OrderCost) : c.repaired.lines = c.lines := by
  rw [repaired_eq]

@[simp] theorem lineSum_repaired (c : OrderCost) : c.repaired.lineSum = c.lineSum := by
  rw [lineSum, lines_repaired, lineSum]

theorem value_total_corrected (c : OrderCost) (sum : Decimal) : (c.corrected sum).total.value = sum.value := by
  unfold corrected
  split_ifs with h
  · exact beq_iff_eq.mp h
  · rfl

theorem agrees_repaired {c : OrderCost} (h : c.lineSum ≠ none) : c.repaired.Agrees := by
  obtain ⟨sum, hsum⟩ := Option.ne_none_iff_exists'.mp h
  refine ⟨sum, by rw [lineSum_repaired, hsum], beq_iff_eq.mpr ?_⟩
  rw [repaired, value_total_corrected, hsum, Option.getD_some]

theorem repaired_of_agrees {c : OrderCost} (h : c.Agrees) : c.repaired = c := by
  obtain ⟨sum, hsum, hsame⟩ := h
  rw [repaired, corrected, hsum, Option.getD_some, if_pos hsame]

end OrderCost

namespace Report

variable {r r' s : Report} {ls : List ServiceCost} {t : Table ServiceTotal}

/-! ## Services -/

/-- The lines summed service by service; `none` if a sum overflows. -/
def byService (ls : List ServiceCost) : Option Decimal := do
  Decimal.sum (← (serviceIds ls).mapM fun id => Decimal.sum (amountsOf id ls))

/-- Lines can be tallied if and only if no sum of a service overflows. -/
theorem tally_ok_iff : (∃ t, ls.foldlM tally .empty = .ok t) ↔
    ∀ id ∈ serviceIds ls, Decimal.sum (amountsOf id ls) ≠ none := by
  rw [accumulates_tally.run_ok_iff]
  simp only [amountIn_empty, ← Option.ne_none_iff_exists']
  constructor
  · intro h id _
    exact h id
  · intro h id
    by_cases hid : id ∈ serviceIds ls
    · exact h id hid
    · rw [amountsOf_of_not_mem hid]
      exact Option.some_ne_none _

theorem byService_of_tally (h : ls.foldlM tally .empty = .ok t) :
    byService ls = Decimal.sum (t.values.map (·.amount)) := by
  have hids : (serviceIds ls).mapM (fun id => Decimal.sum (amountsOf id ls)) =
      some ((serviceIds ls).map (amountIn t)) :=
    mapM_eq_some_map fun id _ => accumulates_tally.run h id
  unfold byService
  rw [hids, amounts_of_tally h]
  rfl

/-! ## The sums that a rebuild asks for -/

structure Summable (r : Report) : Prop where
  orders : ∀ c ∈ r.orders, c.lineSum ≠ none
  services : ∀ id ∈ serviceIds r.lines, Decimal.sum (amountsOf id r.lines) ≠ none
  total : byService r.lines ≠ none

theorem map_lineSum_iff {costs : List OrderCost} {sums : List Decimal} :
    costs.map OrderCost.lineSum = sums.map some ↔
      (∀ c ∈ costs, c.lineSum ≠ none) ∧ sums = costs.map fun c => c.lineSum.getD .zero := by
  constructor
  · intro h
    constructor
    · intro c hc hnone
      have hmem : c.lineSum ∈ sums.map some := h ▸ List.mem_map_of_mem hc
      simp [hnone] at hmem
    · have hget := congrArg (List.map (·.getD Decimal.zero)) h
      simpa [Function.comp_def] using hget.symm
  · rintro ⟨hall, rfl⟩
    rw [List.map_map]
    refine List.map_congr_left fun c hc => ?_
    obtain ⟨sum, hsum⟩ := Option.ne_none_iff_exists'.mp (hall c hc)
    simp [hsum]

/-- What a rebuild writes: a sum for each order, a tally of all lines, and the sum of the tallied amounts. -/
theorem recompute_eq_ok_iff : recompute.run r = .ok () r' ↔
    (∀ c ∈ r.orders, c.lineSum ≠ none) ∧ ∃ t total, r.lines.foldlM tally .empty = .ok t ∧
      Decimal.sum (t.values.map (·.amount)) = some total ∧
      r' = { r with orders := r.orders.map OrderCost.repaired, serviceTotals := t, total } := by
  have hzip : r.orders.zipWith OrderCost.corrected (r.orders.map fun c => c.lineSum.getD .zero) =
      r.orders.map OrderCost.repaired := by
    rw [List.zipWith_map_right, List.zipWith_self]
    rfl
  rw [run_recompute]
  constructor
  · intro h
    cases hloop : tallyOrders .empty r.orders with
    | error e =>
      rw [hloop] at h
      cases h
    | ok result =>
      obtain ⟨sums, t⟩ := result
      obtain ⟨hsums, ht⟩ := tallyOrders_eq_ok_iff.mp hloop
      obtain ⟨hall, rfl⟩ := map_lineSum_iff.mp hsums
      cases htotal : Decimal.sum (t.values.map (·.amount)) with
      | none =>
        simp only [hloop, htotal, Amount.orOverflow] at h
        cases h
      | some total =>
        simp only [hloop, htotal, Amount.orOverflow_some, hzip] at h
        cases h
        exact ⟨hall, t, total, ht, htotal, rfl⟩
  · rintro ⟨hall, t, total, ht, htotal, rfl⟩
    have hloop := tallyOrders_eq_ok_iff.mpr ⟨map_lineSum_iff.mpr ⟨hall, rfl⟩, ht⟩
    simp only [hloop, htotal, Amount.orOverflow_some, hzip]

theorem recompute_ok_iff : (∃ r', recompute.run r = .ok () r') ↔ Summable r := by
  constructor
  · rintro ⟨r', h⟩
    obtain ⟨hall, t, total, ht, htotal, -⟩ := recompute_eq_ok_iff.mp h
    refine ⟨hall, tally_ok_iff.mp ⟨t, ht⟩, ?_⟩
    rw [byService_of_tally ht, htotal]
    exact Option.some_ne_none total
  · intro h
    obtain ⟨t, ht⟩ := tally_ok_iff.mpr h.services
    have htotal := h.total
    rw [byService_of_tally ht] at htotal
    obtain ⟨total, htotal⟩ := Option.ne_none_iff_exists'.mp htotal
    exact ⟨_, recompute_eq_ok_iff.mpr ⟨h.orders, t, total, ht, htotal, rfl⟩⟩

/-! ## The report afterwards -/

structure Repaired (r r' : Report) : Prop where
  /-- An order keeps all but its total. -/
  orders : List.Forall₂ (fun c c' => c' = { c with total := c'.total }) r.orders r'.orders
  agrees : ∀ c ∈ r'.orders, c.Agrees
  /-- The services with a total are those of the lines. -/
  services : ∀ id, id ∈ r'.serviceTotals.names ↔ id ∈ r.lines.map (·.serviceId)
  /-- A service has the name on the first of its lines, and comes to their amounts, added in their order. -/
  serviceTotals : ∀ id t, r'.serviceTotals.get? id = some t →
    firstName id r.lines = some t.serviceName ∧ Decimal.sum (amountsOf id r.lines) = some t.amount
  total : r'.serviceSum = some r'.total
  head : SameHead r r'

theorem repaired_of_recompute (h : recompute.run r = .ok () r') : Repaired r r' := by
  obtain ⟨hall, t, total, ht, htotal, rfl⟩ := recompute_eq_ok_iff.mp h
  refine ⟨?_, ?_, ?_, ?_, htotal, ⟨rfl, rfl, rfl, rfl⟩⟩
  · rw [List.forall₂_map_right_iff, List.forall₂_same]
    intro c _
    exact c.repaired_eq
  · intro c' hc'
    obtain ⟨c, hc, rfl⟩ := List.mem_map.mp hc'
    exact OrderCost.agrees_repaired (hall c hc)
  · intro id
    show id ∈ t.names ↔ _
    rw [names_of_tally ht, mem_serviceIds]
  · intro id entry hget
    have hget : t.get? id = some entry := hget
    have hname := nameIn_tally ht id
    have hamount := accumulates_tally.run ht id
    have hentry : amountIn t id = entry.amount := by rw [amountIn, hget]; rfl
    rw [nameIn, hget, nameIn_empty, Option.none_or] at hname
    rw [hentry] at hamount
    exact ⟨hname.symm, hamount⟩

theorem map_lines_repaired (cs : List OrderCost) : (cs.map OrderCost.repaired).map (·.lines) = cs.map (·.lines) := by
  rw [List.map_map]
  exact List.map_congr_left fun c _ => c.lines_repaired

theorem lines_eq_of_map_lines {as bs : List OrderCost} (h : as.map (·.lines) = bs.map (·.lines)) :
    as.flatMap (·.lines) = bs.flatMap (·.lines) := by
  rw [List.flatMap_def, h, ← List.flatMap_def]

/-- A rebuild of what a rebuild left changes nothing. -/
theorem recompute_of_recompute (h : recompute.run r = .ok () r') : recompute.run r' = .ok () r' := by
  have hagrees := (repaired_of_recompute h).agrees
  obtain ⟨hall, t, total, ht, htotal, rfl⟩ := recompute_eq_ok_iff.mp h
  refine recompute_eq_ok_iff.mpr ⟨?_, t, total, ?_, htotal, ?_⟩
  · intro c' hc'
    obtain ⟨c, hc, rfl⟩ := List.mem_map.mp hc'
    rw [OrderCost.lineSum_repaired]
    exact hall c hc
  · rw [← ht]
    exact congrArg (List.foldlM tally .empty) (lines_eq_of_map_lines (map_lines_repaired r.orders))
  · have horders : (r.orders.map OrderCost.repaired).map OrderCost.repaired = r.orders.map OrderCost.repaired :=
      (List.map_congr_left fun c hc => OrderCost.repaired_of_agrees (hagrees c hc)).trans (List.map_id _)
    simp only [horders]

/-! ## Stale totals -/

def SameLines (r s : Report) : Prop := r.orders.map (·.lines) = s.orders.map (·.lines)

/-- Every total of a report, those of the orders as numbers. -/
def totals (r : Report) : List Rat × Table ServiceTotal × Decimal :=
  (r.orders.map (·.total.value), r.serviceTotals, r.total)

theorem tallyOrders_of_map_lines {as bs : List OrderCost} (h : as.map (·.lines) = bs.map (·.lines))
    (t : Table ServiceTotal) : tallyOrders t as = tallyOrders t bs := by
  induction as generalizing bs t with
  | nil =>
    rw [List.map_nil, eq_comm, List.map_eq_nil_iff] at h
    rw [h]
  | cons a as ih =>
    cases bs with
    | nil => cases h
    | cons b bs =>
      rw [List.map_cons, List.map_cons, List.cons.injEq] at h
      obtain ⟨hlines, hrest⟩ := h
      have horder : tallyOrder t a = tallyOrder t b := by
        rw [tallyOrder, tallyOrder, OrderCost.lineSum, OrderCost.lineSum, hlines]
      simp only [tallyOrders, horder, ih hrest]

theorem map_totals_corrected {as bs : List OrderCost} (h : as.map (·.lines) = bs.map (·.lines)) (sums : List Decimal) :
    (as.zipWith OrderCost.corrected sums).map (·.total.value) =
      (bs.zipWith OrderCost.corrected sums).map (·.total.value) := by
  have hsums : ∀ cs : List OrderCost, (cs.zipWith OrderCost.corrected sums).map (·.total.value) =
      (cs.map (·.lines)).zipWith (fun _ sum => sum.value) sums := by
    intro cs
    rw [List.map_zipWith, List.zipWith_map_left]
    congr 1
    funext c sum
    exact c.value_total_corrected sum
  rw [hsums, hsums, h]

/-- How a rebuild ends: with its error, or else with the totals it leaves. -/
def rebuiltTotals (r : Report) : Except ChargeError (List Rat × Table ServiceTotal × Decimal) :=
  match recompute.run r with
  | .ok () r' => .ok r'.totals
  | .error e _ => .error e

theorem rebuiltTotals_of_sameLines (h : SameLines r s) : r.rebuiltTotals = s.rebuiltTotals := by
  unfold rebuiltTotals
  rw [run_recompute, run_recompute, tallyOrders_of_map_lines h]
  cases tallyOrders .empty s.orders with
  | error e => rfl
  | ok result =>
    obtain ⟨sums, t⟩ := result
    cases htotal : Decimal.sum (t.values.map (·.amount)) with
    | none => simp only [htotal, Amount.orOverflow]
    | some total =>
      simp only [htotal, Amount.orOverflow_some]
      exact congrArg (fun values => Except.ok (values, t, total)) (map_totals_corrected h sums)

/-- A rebuild fails exactly if a sum that it asks for overflows, and then leaves the report as it was. Else the totals
    are put right, from the lines alone and once and for all. -/
theorem recompute_repairs (r : Report) :
    ((∃ e r', recompute.run r = .error e r') ↔ ¬Summable r) ∧
      (∀ e r', recompute.run r = .error e r' → r' = r) ∧
      (∀ r', recompute.run r = .ok () r' → Repaired r r' ∧ recompute.run r' = .ok () r') ∧
      ∀ s, SameLines r s → r.rebuiltTotals = s.rebuiltTotals := by
  refine ⟨?_, fun e r' => recompute_error, ?_, fun s => rebuiltTotals_of_sameLines⟩
  · rw [← recompute_ok_iff]
    cases recompute.run r <;> simp
  · intro r' h
    exact ⟨repaired_of_recompute h, recompute_of_recompute h⟩

namespace Small

def charged (id : String) (total : Nat) (lines : List (String × String × Nat)) : OrderCost :=
  { OrderCost.new id none ⟨2024, 2, 17, by decide⟩ with
    lines := lines.map fun (serviceId, name, n) => ⟨serviceId, name, (Decimal.ofNat n).getD .zero⟩
    total := (Decimal.ofNat total).getD .zero }

def reportOf (orders : List OrderCost) : Report :=
  { new "c-1" ⟨2024, 2, 5, by decide⟩ ⟨2024, 2, 25, by decide⟩ with orders }

def ordersWith (first second third : Nat) : List OrderCost :=
  [charged "o-1" first [("b", "Tape", 1), ("a", "Label", 2)], charged "o-2" second [("b", "Tapes", 4)],
    charged "o-3" third []]

/-- Seven for two services, and not one total that says so. -/
def stale : Report :=
  { reportOf (ordersWith 9 4 1) with
    total := (Decimal.ofNat 8).getD .zero
    serviceTotals := Table.ofList [("z", ⟨"Box", (Decimal.ofNat 8).getD .zero⟩)] }

def untotalled : Report := reportOf (ordersWith 0 0 0)

def beyond : Report :=
  reportOf [charged "o-1" 0 [("a", "Label", Decimal.maxCoefficient)], charged "o-2" 0 [("b", "Tape", 1)]]

end Small

/-- Stale totals are put right, as they are where there are none. Where services do not add up they stay. -/
theorem recompute_repairs_stale :
    (∃ r', recompute.run Small.stale = .ok () r' ∧ Repaired Small.stale r' ∧ recompute.run r' = .ok () r' ∧
        r'.total.value = 7) ∧
      SameLines Small.stale Small.untotalled ∧ Small.stale.rebuiltTotals = Small.untotalled.rebuiltTotals ∧
      ∃ e, recompute.run Small.beyond = .error e Small.beyond := by
  have hsummable : Summable Small.stale := ⟨by decide +kernel, by decide +kernel, by decide +kernel⟩
  have hsame : SameLines Small.stale Small.untotalled := rfl
  obtain ⟨r', h⟩ := recompute_ok_iff.mpr hsummable
  obtain ⟨hrepaired, hagain⟩ := (recompute_repairs Small.stale).2.2.1 r' h
  have htotal : Small.stale.rebuiltTotals.toOption.map (·.2.2.value) = some 7 := by decide +kernel
  rw [rebuiltTotals, h] at htotal
  obtain ⟨e, s, he⟩ := (recompute_repairs Small.beyond).1.mpr fun hs => hs.total (by decide +kernel)
  have hs := (recompute_repairs Small.beyond).2.1 e s he
  exact ⟨⟨r', h, hrepaired, hagain, Option.some.inj htotal⟩, hsame, (recompute_repairs Small.stale).2.2.2 _ hsame,
    e, hs ▸ he⟩

end Report

end Tariff
