/-
  Tariff.Proofs.Report.Exact — reports whose totals are exact.

  Lines of few places whose amounts together fit (`Fitting`) are never refused. The total
  of each service, of each order and of the report is then the exact sum of its lines.
  - `add_of_fitting` / `verdicts_of_fitting`: no cost is refused.
  - `serviceSum_exact` / `orderSum_exact`: both ways to sum a report give what its lines come to.
-/
import Tariff.Proofs.Decimal.Exact
import Tariff.Proofs.Report.Verdicts

namespace Tariff.Report

open Decimal

/-- Lines with at most `places` places whose amounts fit together. -/
structure Fitting (places : Nat) (ls : List ServiceCost) : Prop where
  scale_le : ∀ l ∈ ls, l.amount.scale ≤ places
  fits : Fits places (magnitude (ls.map (·.amount)))

theorem Fitting.nil (places : Nat) : Fitting places [] := ⟨by simp, by simp [Fits]⟩

theorem Fitting.sublist {places : Nat} {ks ls : List ServiceCost} (h : Fitting places ls) (hs : ks.Sublist ls) :
    Fitting places ks := by
  constructor
  · intro l hl
    exact h.scale_le l (hs.subset hl)
  · exact h.fits.of_le (magnitude_nonneg _) (magnitude_sublist (hs.map _))

/-! ## Totals of services -/

def amounts (t : Table ServiceTotal) : List Decimal := t.values.map (·.amount)

@[simp] theorem amounts_empty : amounts .empty = [] := rfl

theorem amountIn_eq_zero_or_mem (t : Table ServiceTotal) (id : String) :
    amountIn t id = .zero ∨ amountIn t id ∈ amounts t := by
  unfold amountIn
  cases h : t.get? id with
  | none => exact .inl rfl
  | some x => exact .inr (List.mem_map_of_mem (Table.mem_values_iff.mpr ⟨id, h⟩))

theorem abs_amountIn_le (t : Table ServiceTotal) (id : String) :
    |(amountIn t id).value| ≤ magnitude (amounts t) := by
  rcases amountIn_eq_zero_or_mem t id with h | h
  · rw [h, value_zero, abs_zero]
    exact magnitude_nonneg _
  · exact abs_value_le_magnitude h

theorem mem_amounts_put {t : Table ServiceTotal} {name : String} {x : ServiceTotal} {d : Decimal}
    (h : d ∈ amounts (t.put name x)) : d = x.amount ∨ d ∈ amounts t := by
  obtain ⟨y, hy, rfl⟩ := List.mem_map.mp h
  obtain ⟨key, hkey⟩ := Table.mem_values_iff.mp hy
  rw [Table.get?_put] at hkey
  split at hkey
  · cases hkey
    exact .inl rfl
  · exact .inr (List.mem_map_of_mem (Table.mem_values_iff.mpr ⟨key, hkey⟩))

theorem magnitude_amounts_put (t : Table ServiceTotal) (name : String) (x : ServiceTotal) :
    magnitude (amounts (t.put name x)) + |(amountIn t name).value| = magnitude (amounts t) + |x.amount.value| := by
  have h := Table.sum_values_put (fun y : ServiceTotal => |y.amount.value|) t name x
  have hold : ((t.get? name).map fun y => |y.amount.value|).getD 0 = |(amountIn t name).value| := by
    unfold amountIn
    cases t.get? name <;> simp
  rw [hold] at h
  simpa [magnitude, amounts, List.map_map, Function.comp_def] using h

theorem exactSum_amounts_put (t : Table ServiceTotal) (name : String) (x : ServiceTotal) :
    exactSum (amounts (t.put name x)) + (amountIn t name).value = exactSum (amounts t) + x.amount.value := by
  have h := Table.sum_values_put (fun y : ServiceTotal => y.amount.value) t name x
  have hold : ((t.get? name).map fun y => y.amount.value).getD 0 = (amountIn t name).value := by
    unfold amountIn
    cases t.get? name <;> simp
  rw [hold] at h
  simpa [exactSum, amounts, List.map_map, Function.comp_def] using h

/-! ## Exact tallies -/

/-- `t` is `s` with the lines added to it exactly. -/
structure Tallied (places : Nat) (s : Table ServiceTotal) (ls : List ServiceCost) (t : Table ServiceTotal) : Prop where
  scale_le : ∀ d ∈ amounts t, d.scale ≤ places
  magnitude_le : magnitude (amounts t) ≤ magnitude (amounts s) + magnitude (ls.map (·.amount))
  sum : exactSum (amounts t) = exactSum (amounts s) + exactSum (ls.map (·.amount))
  each : ∀ id, (amountIn t id).value = (amountIn s id).value + exactSum (amountsOf id ls)

theorem amountsOf_append (id : String) (ks ls : List ServiceCost) :
    amountsOf id (ks ++ ls) = amountsOf id ks ++ amountsOf id ls := by
  simp [amountsOf]

theorem Tallied.trans {places : Nat} {s t u : Table ServiceTotal} {ks ls : List ServiceCost}
    (h : Tallied places s ks t) (h' : Tallied places t ls u) : Tallied places s (ks ++ ls) u where
  scale_le := h'.scale_le
  magnitude_le := by
    have := h.magnitude_le
    have := h'.magnitude_le
    rw [List.map_append, magnitude_append]
    linarith
  sum := by rw [h'.sum, h.sum, List.map_append, exactSum_append, add_assoc]
  each id := by rw [h'.each, h.each, amountsOf_append, exactSum_append, add_assoc]

/-- One line that fits with what there is. -/
theorem tally_of_fits {places : Nat} {s : Table ServiceTotal} {l : ServiceCost}
    (hs : ∀ d ∈ amounts s, d.scale ≤ places) (hl : l.amount.scale ≤ places)
    (h : Fits places (magnitude (amounts s) + |l.amount.value|)) :
    ∃ t, tally s l = .ok t ∧ Tallied places s [l] t := by
  have hold := abs_amountIn_le s l.serviceId
  have hscale : (amountIn s l.serviceId).scale ≤ places := by
    rcases amountIn_eq_zero_or_mem s l.serviceId with e | e
    · rw [e]; exact Nat.zero_le _
    · exact hs _ e
  have hadd := abs_add_le (amountIn s l.serviceId).value l.amount.value
  obtain ⟨a, ha, hav, has⟩ := add_of_fits hscale hl (h.of_abs_le (by linarith))
  rw [tally_eq, ha]
  refine ⟨_, rfl, ?_, ?_, ?_, ?_⟩
  · intro d hd
    rcases mem_amounts_put hd with rfl | hd
    · exact has
    · exact hs d hd
  · have := magnitude_amounts_put s l.serviceId ⟨(nameIn s l.serviceId).getD l.serviceName, a⟩
    simp only [List.map_cons, List.map_nil, magnitude_cons, magnitude_nil, hav] at this ⊢
    linarith
  · have := exactSum_amounts_put s l.serviceId ⟨(nameIn s l.serviceId).getD l.serviceName, a⟩
    simp only [List.map_cons, List.map_nil, exactSum_cons, exactSum_nil, hav] at this ⊢
    linarith
  · intro id
    rw [amountIn_put, amountsOf_cons]
    by_cases e : id = l.serviceId
    · rw [if_pos e, if_pos e, e, hav, amountsOf_nil, exactSum_cons, exactSum_nil, add_zero]
    · rw [if_neg e, if_neg e, amountsOf_nil, exactSum_nil, add_zero]

theorem foldlM_tally_of_fits {places : Nat} {ls : List ServiceCost} {s : Table ServiceTotal}
    (hs : ∀ d ∈ amounts s, d.scale ≤ places) (hl : ∀ l ∈ ls, l.amount.scale ≤ places)
    (h : Fits places (magnitude (amounts s) + magnitude (ls.map (·.amount)))) :
    ∃ t, ls.foldlM tally s = .ok t ∧ Tallied places s ls t := by
  induction ls generalizing s with
  | nil => exact ⟨s, rfl, hs, by simp, by simp, by simp⟩
  | cons l ls ih =>
    rw [List.map_cons, magnitude_cons] at h
    have hm := magnitude_nonneg (amounts s)
    have hr := magnitude_nonneg (ls.map (·.amount))
    have hv := abs_nonneg l.amount.value
    obtain ⟨t, ht, hst⟩ := tally_of_fits hs (hl l List.mem_cons_self) (h.of_le (by linarith) (by linarith))
    have hle := hst.magnitude_le
    simp only [List.map_cons, List.map_nil, magnitude_cons, magnitude_nil] at hle
    have ht0 := magnitude_nonneg (amounts t)
    have hrest : Fits places (magnitude (amounts t) + magnitude (ls.map (·.amount))) :=
      h.of_le (by linarith) (by linarith)
    obtain ⟨u, hu, htu⟩ := ih hst.scale_le (fun k hk => hl k (List.mem_cons_of_mem l hk)) hrest
    refine ⟨u, ?_, hst.trans htu⟩
    rw [List.foldlM_cons, ht]
    exact hu

/-- The service totals of fitting lines. -/
theorem Fitting.tally {places : Nat} {ls : List ServiceCost} (h : Fitting places ls) :
    ∃ t, ls.foldlM tally .empty = .ok t ∧ Tallied places .empty ls t :=
  foldlM_tally_of_fits (by simp) h.scale_le (by simpa using h.fits)

/-! ## No refusals -/

/-- The amounts that `add` sums are those of the service totals it leaves. -/
theorem staged_amounts {r : Report} {ls : List ServiceCost} {staged : Table Decimal}
    (hs : ls.foldlM r.stage .empty = .ok staged) :
    ((r.serviceTotals.without staged).map (·.2.amount) ++ staged.values).Perm
      (amounts (ls.foldl (settle staged) r.serviceTotals)) := by
  refine Table.values_overlay ?_
  intro id
  have hsome := stage_get?_isSome hs id
  have hname := nameIn_settle staged ls r.serviceTotals id
  have hamount := amountIn_settle staged ls r.serviceTotals id
  rw [get?_eq_views, hname, hamount]
  by_cases hid : id ∈ ls.map (·.serviceId)
  · obtain ⟨a, ha⟩ := Option.isSome_iff_exists.mp (show (staged.get? id).isSome = true by simpa [hid] using hsome)
    obtain ⟨name, hn⟩ := Option.isSome_iff_exists.mp (firstName_isSome_iff.mpr hid)
    rw [if_pos hid, ha, hn]
    cases nameIn r.serviceTotals id <;> rfl
  · have hnone : staged.get? id = none := by simpa [hid] using hsome
    have hn : firstName id ls = none := by
      rw [← Option.not_isSome_iff_eq_none, firstName_isSome_iff]
      exact hid
    rw [if_neg hid, hnone, hn, Option.or_none, Option.none_or, get?_eq_views, Option.map_map]

theorem stagedTotal_eq (r : Report) (staged : Table Decimal) :
    r.stagedTotal staged = Amount.reportTotal.orOverflow
      (Decimal.sum ((r.serviceTotals.without staged).map (·.2.amount) ++ staged.values)) := rfl

/-- The total that `add` leaves is the sum of the service totals it leaves, in some order. -/
theorem add_total {r r' : Report} {c : OrderCost} (h : (add c).run r = .ok () r') :
    ∃ ds, ds.Perm (amounts r'.serviceTotals) ∧ Decimal.sum ds = some r'.total := by
  obtain ⟨staged, total, hs, htotal, rfl⟩ := add_staged h
  rw [stagedTotal_eq] at htotal
  exact ⟨_, staged_amounts hs, Amount.orOverflow_eq_ok_iff.mp htotal⟩

theorem add_of_fitting {places : Nat} {r : Report} {c : OrderCost} (hr : Booked r)
    (h : Fitting places (r.lines ++ c.lines)) : ∃ r', (add c).run r = .ok () r' := by
  obtain ⟨t, ht, hst⟩ := h.tally
  rw [List.foldlM_append, hr.totals] at ht
  have ht : c.lines.foldlM tally r.serviceTotals = .ok t := ht
  obtain ⟨staged, hs⟩ := (stage_ok_iff_tally_ok r c.lines).mpr ⟨t, ht⟩
  have hp := staged_amounts hs
  rw [settle_eq_tally hs ht] at hp
  have hm : magnitude (amounts t) ≤ magnitude ((r.lines ++ c.lines).map (·.amount)) := by
    simpa using hst.magnitude_le
  have hfits : Fits places (magnitude ((r.serviceTotals.without staged).map (·.2.amount) ++ staged.values)) := by
    refine h.fits.of_le (magnitude_nonneg _) ?_
    rw [magnitude_perm hp]
    exact hm
  have hscale : ∀ d ∈ (r.serviceTotals.without staged).map (·.2.amount) ++ staged.values, d.scale ≤ places := by
    intro d hd
    exact hst.scale_le d (hp.mem_iff.mp hd)
  obtain ⟨total, htotal, -, -⟩ := sum_of_fits hscale hfits
  have hstaged : r.stagedTotal staged = .ok total := by rw [stagedTotal_eq, htotal, Amount.orOverflow_some]
  exact ⟨_, add_of_staged hs hstaged⟩

/-- Costs whose lines fit with those of the report are all taken. -/
theorem verdicts_of_fitting {places : Nat} {r : Report} {cs : List OrderCost} (hr : Booked r)
    (hc : ∀ c ∈ cs, c.Summed) (h : Fitting places (r.lines ++ cs.flatMap (·.lines))) :
    ∀ v ∈ r.verdicts cs, v = none := by
  -- a cost that is taken moves its lines from those to come to those of the report
  induction cs generalizing r with
  | nil => intro v hv; cases hv
  | cons c cs ih =>
    rw [List.flatMap_cons, ← List.append_assoc] at h
    obtain ⟨r', hadd⟩ := add_of_fitting hr (h.sublist (List.sublist_append_left _ _))
    have hlines := lines_add hadd
    have hrest : ∀ d ∈ cs, d.Summed := by
      intro d hd
      exact hc d (List.mem_cons_of_mem c hd)
    have := ih (booked_add hr (hc c List.mem_cons_self) hadd) hrest (by rw [hlines]; exact h)
    intro v hv
    rw [verdicts_ok hadd] at hv
    rcases List.mem_cons.mp hv with rfl | hv
    · rfl
    · exact this v hv

/-! ## Exact totals -/

theorem amountIn_exact {places : Nat} {r : Report} (hr : Booked r) (h : Fitting places r.lines) (id : String) :
    (amountIn r.serviceTotals id).value = exactSum (amountsOf id r.lines) := by
  obtain ⟨t, ht, hst⟩ := h.tally
  cases hr.totals.symm.trans ht
  simpa using hst.each id

/-- The service totals come to the same in any order. -/
theorem sum_amounts_exact {places : Nat} {r : Report} {ds : List Decimal} (hr : Booked r)
    (h : Fitting places r.lines) (hp : ds.Perm (amounts r.serviceTotals)) :
    ∃ d, Decimal.sum ds = some d ∧ d.value = exactSum (r.lines.map (·.amount)) := by
  obtain ⟨t, ht, hst⟩ := h.tally
  cases hr.totals.symm.trans ht
  have hm : magnitude ds ≤ magnitude (r.lines.map (·.amount)) := by
    rw [magnitude_perm hp]
    simpa using hst.magnitude_le
  have hs : ∀ d ∈ ds, d.scale ≤ places := by
    intro d hd
    exact hst.scale_le d (hp.mem_iff.mp hd)
  obtain ⟨d, hd, hdv, -⟩ := sum_of_fits hs (h.fits.of_le (magnitude_nonneg _) hm)
  exact ⟨d, hd, by rw [hdv, exactSum_perm hp, hst.sum]; simp⟩

theorem serviceSum_exact {places : Nat} {r : Report} (hr : Booked r) (h : Fitting places r.lines) :
    ∃ d, r.serviceSum = some d ∧ d.value = exactSum (r.lines.map (·.amount)) :=
  sum_amounts_exact hr h (.refl _)

theorem total_exact {places : Nat} {c : OrderCost} (hc : c.Summed) (h : Fitting places c.lines) :
    c.total.value = exactSum (c.lines.map (·.amount)) ∧ c.total.scale ≤ places := by
  obtain ⟨d, hd, hdv, hds⟩ := sum_of_fits (List.forall_mem_map.mpr h.scale_le) h.fits
  have hsum : c.lineSum = some c.total := hc
  have e : c.total = d := Option.some.inj (hsum.symm.trans hd)
  rw [e]
  exact ⟨hdv, hds⟩

/-- A cost takes one more line if it fits with those that are there. -/
theorem total_add_of_fitting {places : Nat} {c : OrderCost} {l : ServiceCost} (hc : c.Summed)
    (h : Fitting places (c.lines ++ [l])) : ∃ total, c.total.add l.amount = some total := by
  obtain ⟨hv, hs⟩ := total_exact hc (h.sublist (List.sublist_append_left _ _))
  have hm := abs_exactSum_le ((c.lines ++ [l]).map (·.amount))
  have hsum : exactSum ((c.lines ++ [l]).map (·.amount)) = c.total.value + l.amount.value := by
    simp [hv]
  rw [hsum] at hm
  obtain ⟨total, hadd, -, -⟩ := add_of_fits hs (h.scale_le l (by simp)) (h.fits.of_abs_le hm)
  exact ⟨total, hadd⟩

/-- The order totals of fitting lines are small and exact. -/
theorem totals_exact {places : Nat} {cs : List OrderCost} (hc : ∀ c ∈ cs, c.Summed)
    (h : Fitting places (cs.flatMap (·.lines))) :
    (∀ d ∈ cs.map (·.total), d.scale ≤ places) ∧
      magnitude (cs.map (·.total)) ≤ magnitude ((cs.flatMap (·.lines)).map (·.amount)) ∧
      exactSum (cs.map (·.total)) = exactSum ((cs.flatMap (·.lines)).map (·.amount)) := by
  induction cs with
  | nil => exact ⟨by simp, le_refl _, rfl⟩
  | cons c cs ih =>
    rw [List.flatMap_cons] at h ⊢
    obtain ⟨hv, hs⟩ := total_exact (hc c List.mem_cons_self) (h.sublist (List.sublist_append_left _ _))
    have hrest : ∀ d ∈ cs, d.Summed := by
      intro d hd
      exact hc d (List.mem_cons_of_mem c hd)
    obtain ⟨ihs, ihm, ihe⟩ := ih hrest (h.sublist (List.sublist_append_right _ _))
    have habs := abs_exactSum_le (c.lines.map (·.amount))
    rw [List.map_append, magnitude_append, exactSum_append, List.map_cons, magnitude_cons, exactSum_cons, hv, ihe]
    exact ⟨List.forall_mem_cons.mpr ⟨hs, ihs⟩, by linarith, rfl⟩

theorem orderSum_exact {places : Nat} {r : Report} (hr : Booked r) (h : Fitting places r.lines) :
    ∃ d, r.orderSum = some d ∧ d.value = exactSum (r.lines.map (·.amount)) := by
  obtain ⟨hs, hm, he⟩ := totals_exact hr.costs h
  obtain ⟨d, hd, hdv, -⟩ := sum_of_fits hs (h.fits.of_le (magnitude_nonneg _) hm)
  exact ⟨d, hd, hdv.trans he⟩

end Tariff.Report
