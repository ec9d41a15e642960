/-
  Tariff.Proofs.Report.History — reports by the calls that made them.

  A `History` makes a report from nothing: it adds costs, each of which was made by
  pushing charges, and merges reports that have histories of their own. Charges of either
  sign whose magnitudes together fit in cents are never refused on the way, and at every
  stage a rebuild finds the totals as they are.
  - `build_of_fitting` / `balanced_merge`: one cost, one call.
  - `made_rebuilt`: a whole history.
-/
import Tariff.Proofs.Report.Exact

namespace Tariff.Report

open Decimal

/-! ## Histories -/

structure Draft where
  orderId : String
  reference : Option String
  date : Date
  charges : List ServiceCost
  deriving DecidableEq, Repr

def pushOrRefuse (state : OrderCost × List ChargeError) (line : ServiceCost) : OrderCost × List ChargeError :=
  match (OrderCost.push line).run state.1 with
  | .ok () c => (c, state.2)
  | .error e c => (c, state.2 ++ [e])

def Draft.build (d : Draft) : OrderCost × List ChargeError :=
  d.charges.foldl pushOrRefuse (.new d.orderId d.reference d.date, [])

/-- The calls behind a report. -/
inductive History where
  | fresh (customerId : String) (start stop : Date)
  | add (before : History) (draft : Draft)
  | merge (before other : History)
  deriving DecidableEq, Repr

namespace History

/-- The report, and every refusal on the way to it. -/
def made : History → Report × List ChargeError
  | fresh customerId start stop => (.new customerId start stop, [])
  | add before draft =>
    let (report, refused) := before.made
    let (cost, pushes) := draft.build
    let (report, adds) := addOrReject (report, []) cost
    (report, refused ++ pushes ++ adds.map (·.error))
  | merge before other =>
    let (report, refused) := before.made
    let (merged, refused') := other.made
    let (report, adds) := report.merge merged.orders
    (report, refused ++ refused' ++ adds.map (·.error))

def charges : History → List ServiceCost
  | fresh .. => []
  | add before draft => before.charges ++ draft.charges
  | merge before other => before.charges ++ other.charges

/-- The history after each of its calls, those of merged reports included. -/
def stages : History → List History
  | fresh customerId start stop => [fresh customerId start stop]
  | add before draft => before.stages ++ [add before draft]
  | merge before other => before.stages ++ other.stages ++ [merge before other]

theorem charges_of_stage {g h : History} (hg : g ∈ h.stages) : g.charges.Sublist h.charges := by
  induction h with
  | fresh => rw [List.mem_singleton.mp hg]
  | add before draft ih =>
    rcases List.mem_append.mp hg with hg | hg
    · exact (ih hg).trans (List.sublist_append_left _ _)
    · rw [List.mem_singleton.mp hg]
  | merge before other ihb iho =>
    rcases List.mem_append.mp hg with hg | hg
    · rcases List.mem_append.mp hg with hg | hg
      · exact (ihb hg).trans (List.sublist_append_left _ _)
      · exact (iho hg).trans (List.sublist_append_right _ _)
    · rw [List.mem_singleton.mp hg]

end History

/-! ## Making a cost -/

theorem push_of_fitting {places : Nat} {c : OrderCost} {l : ServiceCost} (hc : c.Summed)
    (h : Fitting places (c.lines ++ [l])) :
    ∃ total, (OrderCost.push l).run c = .ok () { c with lines := c.lines ++ [l], total } ∧
      OrderCost.Summed { c with lines := c.lines ++ [l], total } := by
  obtain ⟨total, hadd⟩ := total_add_of_fitting hc h
  refine ⟨total, ?_, hc.add hadd⟩
  simp only [OrderCost.run_push, hadd]

theorem foldl_push_of_fitting {places : Nat} {c : OrderCost} {ls : List ServiceCost} (hc : c.Summed)
    (h : Fitting places (c.lines ++ ls)) :
    ∃ d, ls.foldl pushOrRefuse (c, []) = (d, []) ∧ d.Summed ∧ d.lines = c.lines ++ ls := by
  induction ls generalizing c with
  | nil => exact ⟨c, rfl, hc, (List.append_nil _).symm⟩
  | cons l ls ih =>
    rw [List.append_cons] at h
    obtain ⟨total, hpush, hsummed⟩ := push_of_fitting hc (h.sublist (List.sublist_append_left _ _))
    obtain ⟨d, hd, hds, hdl⟩ := ih hsummed h
    refine ⟨d, ?_, hds, hdl.trans (List.append_assoc ..)⟩
    rw [List.foldl_cons, pushOrRefuse, hpush]
    exact hd

/-- Charges that fit are all pushed. -/
theorem build_of_fitting {places : Nat} {d : Draft} (h : Fitting places d.charges) :
    ∃ c, d.build = (c, []) ∧ c.Summed ∧ c.lines = d.charges :=
  foldl_push_of_fitting (c := .new d.orderId d.reference d.date) rfl h

/-! ## One call -/

structure Balanced (r : Report) : Prop where
  booked : Booked r
  total : r.total.value = exactSum (r.lines.map (·.amount))

theorem balanced_new (customerId : String) (start stop : Date) : Balanced (new customerId start stop) :=
  ⟨booked_new .., value_zero⟩

theorem balanced_add {places : Nat} {r : Report} {c : OrderCost} (hr : Booked r) (hc : c.Summed)
    (h : Fitting places (r.lines ++ c.lines)) : ∃ r', (add c).run r = .ok () r' ∧ Balanced r' := by
  obtain ⟨r', hadd⟩ := add_of_fitting hr h
  have hbooked := booked_add hr hc hadd
  rw [← lines_add hadd] at h
  obtain ⟨ds, hp, hsum⟩ := add_total hadd
  obtain ⟨d, hd, hdv⟩ := sum_amounts_exact hbooked h hp
  have htotal : r'.total = d := Option.some.inj (hsum.symm.trans hd)
  exact ⟨r', hadd, hbooked, by rw [htotal, hdv]⟩

/-- Costs that fit are all taken. -/
theorem balanced_merge {places : Nat} {r : Report} {cs : List OrderCost} (hr : Balanced r)
    (hc : ∀ c ∈ cs, c.Summed) (h : Fitting places (r.lines ++ cs.flatMap (·.lines))) :
    ∃ r', r.merge cs = (r', []) ∧ Balanced r' ∧ r'.lines = r.lines ++ cs.flatMap (·.lines) := by
  induction cs generalizing r with
  | nil => exact ⟨r, rfl, hr, (List.append_nil _).symm⟩
  | cons c cs ih =>
    rw [List.flatMap_cons, ← List.append_assoc] at h ⊢
    obtain ⟨s, hadd, hs⟩ := balanced_add hr.booked (hc c List.mem_cons_self) (h.sublist (List.sublist_append_left _ _))
    rw [← lines_add hadd] at h ⊢
    obtain ⟨r', hmerge, hr'⟩ := ih hs (fun d hd => hc d (List.mem_cons_of_mem c hd)) h
    refine ⟨r', ?_, hr'⟩
    rw [merge_cons, hadd]
    exact hmerge

/-! ## Whole histories -/

theorem made_of_fitting {places : Nat} {h : History} (hf : Fitting places h.charges) :
    h.made.2 = [] ∧ Balanced h.made.1 ∧ h.made.1.lines = h.charges := by
  induction h with
  | fresh customerId start stop => exact ⟨rfl, balanced_new .., rfl⟩
  | add before draft ih =>
    obtain ⟨hrefused, hr, hlines⟩ := ih (hf.sublist (List.sublist_append_left _ _))
    obtain ⟨c, hbuild, hc, hcl⟩ := build_of_fitting (hf.sublist (List.sublist_append_right _ _))
    have hfit : Fitting places (before.made.1.lines ++ [c].flatMap (·.lines)) := by
      simpa [hlines, hcl, History.charges] using hf
    obtain ⟨r', hmerge, hr', hl'⟩ := balanced_merge hr (by simpa using hc) hfit
    have hadd : addOrReject (before.made.1, []) c = (r', []) := hmerge
    simp only [History.made, hbuild, hadd, hrefused]
    exact ⟨rfl, hr', by rw [hl', hlines]; simp [hcl, History.charges]⟩
  | merge before other ihb iho =>
    obtain ⟨hrefused, hr, hlines⟩ := ihb (hf.sublist (List.sublist_append_left _ _))
    obtain ⟨hrefused', ho, holines⟩ := iho (hf.sublist (List.sublist_append_right _ _))
    have hfit : Fitting places (before.made.1.lines ++ other.made.1.orders.flatMap (·.lines)) := by
      have hflat : other.made.1.orders.flatMap (·.lines) = other.charges := holines
      rw [hlines, hflat]
      exact hf
    obtain ⟨r', hmerge, hr', hl'⟩ := balanced_merge hr ho.booked.costs hfit
    simp only [History.made, hmerge, hrefused, hrefused']
    refine ⟨rfl, hr', ?_⟩
    rw [hl', hlines]
    exact congrArg _ holines

/-- A rebuild sums the report's lines to the totals it has, and the three totals agree. -/
structure Rebuilt (r : Report) : Prop where
  recompute : ∃ total, Report.recompute.run r = .ok () { r with total } ∧ total.value = r.total.value
  consistent : r.consistent = some true

theorem rebuilt_of_balanced {places : Nat} {r : Report} (hr : Balanced r) (h : Fitting places r.lines) :
    Rebuilt r := by
  obtain ⟨a, ha, hav⟩ := serviceSum_exact hr.booked h
  obtain ⟨b, hb, hbv⟩ := orderSum_exact hr.booked h
  constructor
  · refine ⟨a, ?_, by rw [hav, hr.total]⟩
    rw [recompute_of_booked hr.booked, ha]
    rfl
  · simp [consistent, ha, hb, same, hr.total, hav, hbv]

/-- Charges of at most two places whose magnitudes come to at most 2^96 - 1 cents are never refused, and no
    stage of their history has a total that a rebuild would change. -/
theorem made_rebuilt (h : History) (hs : ∀ l ∈ h.charges, l.amount.scale ≤ 2)
    (hm : magnitude (h.charges.map (·.amount)) * 100 ≤ maxCoefficient) :
    h.made.2 = [] ∧ ∀ g ∈ h.stages, Rebuilt g.made.1 := by
  have hcents : (tenTo 2 : Rat) = 100 := by rw [tenTo_cast]; norm_num
  have hf : Fitting 2 h.charges := by
    refine ⟨hs, ?_⟩
    rw [Fits, abs_of_nonneg (magnitude_nonneg _), hcents]
    exact hm
  refine ⟨(made_of_fitting hf).1, ?_⟩
  intro g hg
  have hg := hf.sublist (History.charges_of_stage hg)
  obtain ⟨-, hr, hlines⟩ := made_of_fitting hg
  exact rebuilt_of_balanced hr (hlines ▸ hg)

namespace Small

def day : Date := ⟨2024, 2, 29, by decide⟩

def charge (serviceId name : String) (negative : Bool) (coefficient scale : Nat) : ServiceCost :=
  ⟨serviceId, name, (Decimal.ofParts negative coefficient scale).getD .zero⟩

def corrected : Draft :=
  ⟨"o-1", none, day, [charge "a" "Label" false 100 2, charge "b" "Tape" false 3 1, charge "a" "Labels" true 5 1]⟩

def refunded : History :=
  .merge (.add (.fresh "c-1" day day) corrected)
    (.add (.fresh "c-1" day day) ⟨"o-2", none, day, [charge "b" "Tape" true 3 1]⟩)

end Small

/-- Three charges and a refund: `1.00 + 0.3 - 0.5`, and `-0.3` from another report. -/
theorem made_rebuilt_refund :
    (∀ l ∈ Small.refunded.charges, l.amount.scale ≤ 2) ∧
      magnitude (Small.refunded.charges.map (·.amount)) * 100 ≤ maxCoefficient ∧
      Small.refunded.made.2 = [] ∧ (∀ g ∈ Small.refunded.stages, Rebuilt g.made.1) ∧
      Small.refunded.made.1.total.value = 1 / 2 := by
  have hs : ∀ l ∈ Small.refunded.charges, l.amount.scale ≤ 2 := by decide
  have hm : magnitude (Small.refunded.charges.map (·.amount)) * 100 ≤ maxCoefficient := by decide +kernel
  obtain ⟨hrefused, hstages⟩ := made_rebuilt Small.refunded hs hm
  exact ⟨hs, hm, hrefused, hstages, by decide +kernel⟩

end Tariff.Report
