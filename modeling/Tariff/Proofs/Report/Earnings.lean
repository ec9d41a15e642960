/-
  Tariff.Proofs.Report.Earnings — reports whose charges are all above zero.

  Every total of such a report is above zero as well, with no more places than the
  charges, though totals may be rounded, costs refused, and a rebuild may fail. Only a
  report without orders comes to zero.
  - `earning_add` / `earning_merge`: adding costs.
  - `earning_resummed`: summing the service totals anew, or failing to.
-/
import Tariff.Proofs.Decimal.Positive
import Tariff.Proofs.Report.Exact

namespace Tariff

open Decimal

structure OrderCost.Earned (places : Nat) (c : OrderCost) : Prop where
  summed : c.Summed
  lines : c.lines ≠ []
  amounts : ∀ l ∈ c.lines, Positive places l.amount

theorem OrderCost.Earned.total {places : Nat} {c : OrderCost} (h : c.Earned places) : Positive places c.total := by
  have hne : c.lines.map (·.amount) ≠ [] := by
    intro hnil
    exact h.lines (List.map_eq_nil_iff.mp hnil)
  exact sum_positive hne (List.forall_mem_map.mpr h.amounts) h.summed

namespace Report

structure Earned (places : Nat) (r : Report) : Prop where
  booked : Booked r
  orders : ∀ c ∈ r.orders, c.Earned places

/-- Its total is above zero as soon as there is an order. -/
structure Earning (places : Nat) (r : Report) : Prop extends Earned places r where
  nothing : r.orders = [] → r.total = .zero
  total : r.orders ≠ [] → Positive places r.total

variable {places : Nat}

/-! ## Services -/

theorem Earned.lines_positive {r : Report} (h : Earned places r) {l : ServiceCost} (hl : l ∈ r.lines) :
    Positive places l.amount := by
  obtain ⟨c, hc, hl⟩ := List.mem_flatMap.mp hl
  exact (h.orders c hc).amounts l hl

/-- The services of a report are those of its lines, each under its first name. -/
theorem nameIn_of_booked {r : Report} (h : Booked r) (id : String) :
    nameIn r.serviceTotals id = firstName id r.lines := by
  rw [nameIn_tally h.totals, nameIn_empty, Option.none_or]

theorem mem_names_of_booked {r : Report} (h : Booked r) (id : String) :
    id ∈ r.serviceTotals.names ↔ id ∈ r.lines.map (·.serviceId) := by
  rw [names_of_tally h.totals, mem_serviceIds]

theorem amountsOf_ne_nil {id : String} {ls : List ServiceCost} (h : id ∈ ls.map (·.serviceId)) :
    amountsOf id ls ≠ [] := by
  obtain ⟨l, hl, rfl⟩ := List.mem_map.mp h
  refine List.ne_nil_of_mem (a := l.amount) (List.mem_map_of_mem ?_)
  exact List.mem_filter.mpr ⟨hl, beq_self_eq_true _⟩

theorem mem_amountsOf {id : String} {ls : List ServiceCost} {d : Decimal} (h : d ∈ amountsOf id ls) :
    ∃ l ∈ ls, l.amount = d := by
  obtain ⟨l, hl, rfl⟩ := List.mem_map.mp h
  exact ⟨l, (List.mem_filter.mp hl).1, rfl⟩

theorem Earned.serviceTotal {r : Report} (h : Earned places r) {id : String} {t : ServiceTotal}
    (ht : r.serviceTotals.get? id = some t) : Positive places t.amount := by
  have hid : id ∈ r.lines.map (·.serviceId) := by
    rw [← mem_names_of_booked h.booked, Table.mem_names_iff, ht]
    rfl
  have hsum : Decimal.sum (amountsOf id r.lines) = some (amountIn r.serviceTotals id) :=
    accumulates_tally.run h.booked.totals id
  have hamount : amountIn r.serviceTotals id = t.amount := by rw [amountIn, ht]; rfl
  rw [← hamount]
  refine sum_positive (amountsOf_ne_nil hid) ?_ hsum
  intro d hd
  obtain ⟨l, hl, rfl⟩ := mem_amountsOf hd
  exact h.lines_positive hl

/-! ## The total -/

theorem Earned.amounts_ne_nil {r : Report} (h : Earned places r) (hne : r.orders ≠ []) :
    amounts r.serviceTotals ≠ [] := by
  obtain ⟨c, hc⟩ := List.exists_mem_of_ne_nil _ hne
  obtain ⟨l, hl⟩ := List.exists_mem_of_ne_nil _ (h.orders c hc).lines
  have hline : l ∈ r.lines := List.mem_flatMap.mpr ⟨c, hc, hl⟩
  have hid := (mem_names_of_booked h.booked l.serviceId).mpr (List.mem_map_of_mem hline)
  obtain ⟨t, ht⟩ := Option.isSome_iff_exists.mp ((Table.mem_names_iff ..).mp hid)
  exact List.ne_nil_of_mem (List.mem_map_of_mem (Table.mem_values_iff.mpr ⟨l.serviceId, ht⟩))

/-- The service totals of a report with orders, in any order, have a positive sum if they have one. -/
theorem Earned.sum_positive {r : Report} (h : Earned places r) (hne : r.orders ≠ []) {ds : List Decimal}
    (hp : ds.Perm (amounts r.serviceTotals)) {d : Decimal} (hd : Decimal.sum ds = some d) : Positive places d := by
  have hds : ds ≠ [] := by
    intro hnil
    rw [hnil, List.nil_perm] at hp
    exact h.amounts_ne_nil hne hp
  refine Decimal.sum_positive hds ?_ hd
  intro e he
  obtain ⟨t, ht, rfl⟩ := List.mem_map.mp (hp.mem_iff.mp he)
  obtain ⟨id, hid⟩ := Table.mem_values_iff.mp ht
  exact h.serviceTotal hid

theorem earning_new (customerId : String) (start stop : Date) : Earning places (new customerId start stop) where
  booked := booked_new ..
  orders c hc := by cases hc
  nothing _ := rfl
  total hne := absurd rfl hne

theorem earning_add {r r' : Report} {c : OrderCost} (hr : Earned places r) (hc : c.Earned places)
    (h : (add c).run r = .ok () r') : Earning places r' := by
  have hbooked := booked_add hr.booked hc.summed h
  obtain ⟨ds, hp, hsum⟩ := add_total h
  obtain ⟨t, total, -, rfl⟩ := add_ok h
  have hearned : Earned places { r with serviceTotals := t, orders := r.orders ++ [c], total } := by
    refine ⟨hbooked, ?_⟩
    intro d hd
    rcases List.mem_append.mp hd with hd | hd
    · exact hr.orders d hd
    · rw [List.mem_singleton.mp hd]; exact hc
  have hne : r.orders ++ [c] ≠ [] := by simp
  exact ⟨hearned, fun hnil => absurd hnil hne, fun _ => hearned.sum_positive hne hp hsum⟩

theorem earning_merge {r : Report} {costs : List OrderCost} (hr : Earning places r)
    (hc : ∀ c ∈ costs, c.Earned places) : Earning places (r.merge costs).1 :=
  merge_induction hr fun c hm _ _ hs h => earning_add hs.toEarned (hc c hm) h

/-- A rebuild sums the same totals, or leaves the sum that is there. -/
theorem earning_resummed {r : Report} (h : Earning places r) : Earning places r.resummed := by
  refine ⟨⟨⟨h.booked.totals, h.booked.costs⟩, h.orders⟩, ?_, ?_⟩
  · intro hnil
    have horders : r.orders = [] := hnil
    have htotals := h.booked.totals
    rw [lines, horders] at htotals
    have hempty : r.serviceTotals = .empty := (Except.ok.inj htotals).symm
    simp only [resummed, serviceSum, hempty]
    rfl
  · intro hne
    unfold resummed
    cases hsum : r.serviceSum with
    | none => exact h.total hne
    | some total => exact h.toEarned.sum_positive hne (.refl _) hsum

end Report

end Tariff
