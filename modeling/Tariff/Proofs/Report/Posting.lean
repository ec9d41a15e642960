/-
  Tariff.Proofs.Report.Posting — what adding one cost does to a report, in any state.

  Adding asks for a sum for each service of the cost and for one over all services. If one
  of them overflows (`Overflows`) the report stays as it was; else the sums are entered and
  nothing else changes (`Posted`).
  - `add_of_overflows` / `posted_add`: the two outcomes, as `add` gives them.
  - `add_all_or_nothing`: there is no third one.
-/
import Tariff.Proofs.Report.Books

namespace Tariff

/-! ## Entries in ascending order -/

namespace Table

variable {α : Type}

/-- Entries in ascending order are determined by which entries there are. -/
theorem entries_eq_of_mem_iff {es fs : List (String × α)} (he : es.Pairwise fun a b => a.1 < b.1)
    (hf : fs.Pairwise fun a b => a.1 < b.1) (h : ∀ name a, (name, a) ∈ es ↔ (name, a) ∈ fs) : es = fs := by
  have hnodup : ∀ {l : List (String × α)}, (l.Pairwise fun a b => a.1 < b.1) → l.Nodup := by
    intro l hl
    exact List.Nodup.of_map (·.1) (nodup_of_ascending (List.pairwise_map.mpr hl))
  have hp : es.Perm fs := (List.perm_ext_iff_of_nodup (hnodup he) (hnodup hf)).mpr fun e => h e.1 e.2
  refine List.Perm.eq_of_pairwise ?_ he hf hp
  intro a b _ _ hab hba
  exact absurd (String.lt_trans hab hba) (String.lt_irrefl a.1)

/-- The values of a table, name by name. -/
theorem values_eq_map_names [Inhabited α] (t : Table α) : t.values = t.names.map fun name => (t.get? name).getD default := by
  rw [values, names, List.map_map]
  refine List.map_congr_left fun e he => ?_
  show e.2 = (t.get? e.1).getD default
  rw [(t.mem_entries_iff e.1 e.2).mp he]
  rfl

end Table

namespace Report

/-! ## The sums that a cost asks for -/

/-- What a service comes to with the lines of a cost, added in their order to what it came to before; `none` if a sum
    overflows. -/
def postedAmount (r : Report) (c : OrderCost) (id : String) : Option Decimal :=
  (amountsOf id c.lines).foldlM Decimal.add (amountIn r.serviceTotals id)

/-- The totals of the services that the cost has no line of, in ascending order of the services. -/
def untouched (t : Table ServiceTotal) (c : OrderCost) : List Decimal :=
  (t.entries.filter fun e => e.1 ∉ serviceIds c.lines).map (·.2.amount)

def touched (t : Table ServiceTotal) (c : OrderCost) : List Decimal :=
  (t.entries.filter fun e => e.1 ∈ serviceIds c.lines).map (·.2.amount)

/-- What the report comes to with a cost: the services without a line of it, then those with one. `none` if a sum
    overflows, that of a service or that of the report. -/
def postedTotal (r : Report) (c : OrderCost) : Option Decimal := do
  let own ← (serviceIds c.lines).mapM (r.postedAmount c)
  Decimal.sum (untouched r.serviceTotals c ++ own)

/-- The first sum to overflow, if one does: those of the services come before that of the report. -/
inductive Overflows (r : Report) (c : OrderCost) : Amount → Prop
  | service {id : String} : id ∈ serviceIds c.lines → r.postedAmount c id = none → Overflows r c .serviceTotal
  | report : (∀ id ∈ serviceIds c.lines, r.postedAmount c id ≠ none) → r.postedTotal c = none →
      Overflows r c .reportTotal

structure Posted (r : Report) (c : OrderCost) (r' : Report) : Prop where
  orders : r'.orders = r.orders ++ [c]
  /-- A service that the report knows keeps its name. -/
  known : ∀ id ∈ serviceIds c.lines, ∀ t, r.serviceTotals.get? id = some t →
    ∃ amount, r.postedAmount c id = some amount ∧ r'.serviceTotals.get? id = some { t with amount }
  /-- A service that it does not know gets the name of the first line. -/
  unknown : ∀ id ∈ serviceIds c.lines, r.serviceTotals.get? id = none →
    ∃ name amount, firstName id c.lines = some name ∧ r.postedAmount c id = some amount ∧
      r'.serviceTotals.get? id = some ⟨name, amount⟩
  others : ∀ id, id ∉ serviceIds c.lines → r'.serviceTotals.get? id = r.serviceTotals.get? id
  total : Decimal.sum (untouched r'.serviceTotals c ++ touched r'.serviceTotals c) = some r'.total
  head : SameHead r r'

/-! ## Staging -/

variable {r r' : Report} {c : OrderCost} {staged : Table Decimal}

/-- Lines can be staged if and only if no sum of a service overflows. -/
theorem staged_iff : (∃ staged, c.lines.foldlM r.stage .empty = .ok staged) ↔
    ∀ id ∈ serviceIds c.lines, r.postedAmount c id ≠ none := by
  rw [(accumulates_stage r).run_ok_iff]
  simp only [staged?_empty, ← Option.isSome_iff_exists]
  constructor
  · intro h id _
    exact Option.isSome_iff_ne_none.mp (h id)
  · intro h id
    by_cases hid : id ∈ serviceIds c.lines
    · exact Option.isSome_iff_ne_none.mpr (h id hid)
    · rw [amountsOf_of_not_mem hid]
      rfl

theorem contains_staged (hs : c.lines.foldlM r.stage .empty = .ok staged) (id : String) :
    staged.contains id = decide (id ∈ serviceIds c.lines) := by
  rw [Table.contains, stage_get?_isSome hs, decide_eq_decide.mpr mem_serviceIds]
  rfl

theorem get?_staged (hs : c.lines.foldlM r.stage .empty = .ok staged) {id : String} (hid : id ∈ serviceIds c.lines) :
    ∃ amount, staged.get? id = some amount ∧ r.postedAmount c id = some amount := by
  have hsome : (staged.get? id).isSome = true := by
    have := contains_staged hs id
    rwa [decide_eq_true hid] at this
  obtain ⟨amount, ha⟩ := Option.isSome_iff_exists.mp hsome
  have hrun := (accumulates_stage r).run hs id
  have hstaged : r.staged? staged id = amount := by rw [staged?, ha, Option.getD_some]
  rw [hstaged] at hrun
  exact ⟨amount, ha, hrun⟩

theorem names_staged (hs : c.lines.foldlM r.stage .empty = .ok staged) : staged.names = serviceIds c.lines := by
  refine Table.eq_of_ascending staged.names_ascending (Table.names_ascending _) ?_
  intro id
  have := contains_staged hs id
  rw [Table.mem_names_iff, ← Table.contains, this, decide_eq_true_iff]

theorem stagedTotal_of_staged (hs : c.lines.foldlM r.stage .empty = .ok staged) :
    r.stagedTotal staged =
      Amount.reportTotal.orOverflow (Decimal.sum (untouched r.serviceTotals c ++ staged.values)) := by
  have hfilter : (r.serviceTotals.entries.filter fun e => !staged.contains e.1) =
      r.serviceTotals.entries.filter fun e => e.1 ∉ serviceIds c.lines := by
    refine List.filter_congr fun e _ => ?_
    rw [contains_staged hs, decide_not]
  rw [untouched, ← hfilter]
  rfl

/-- The total of the staged amounts is the one that the cost asks for. -/
theorem postedTotal_of_staged (hs : c.lines.foldlM r.stage .empty = .ok staged) :
    r.postedTotal c = Decimal.sum (untouched r.serviceTotals c ++ staged.values) := by
  have hown : (serviceIds c.lines).mapM (r.postedAmount c) = some staged.values := by
    rw [Table.values_eq_map_names, names_staged hs]
    refine mapM_eq_some_map fun id hid => ?_
    obtain ⟨amount, hget, hposted⟩ := get?_staged hs hid
    rw [hget, hposted]
    rfl
  rw [postedTotal, hown]
  rfl

/-! ## The two outcomes -/

/-- The first sum to overflow ends the call, with the report as it was. -/
theorem add_of_overflows {amount : Amount} (h : Overflows r c amount) :
    (add c).run r = .error (.overflow amount) r := by
  rw [run_add]
  cases h with
  | service hid hnone =>
    cases hs : c.lines.foldlM r.stage .empty with
    | ok staged => exact absurd hnone (staged_iff.mp ⟨staged, hs⟩ _ hid)
    | error e => rw [(accumulates_stage r).run_error hs]
  | report hall hnone =>
    obtain ⟨staged, hs⟩ := staged_iff.mpr hall
    have ht := stagedTotal_of_staged hs
    rw [← postedTotal_of_staged hs, hnone] at ht
    simp only [hs, ht, Amount.orOverflow]

theorem overflows_of_add_error {e : ChargeError} (h : (add c).run r = .error e r') :
    ∃ amount, Overflows r c amount := by
  by_cases hall : ∀ id ∈ serviceIds c.lines, r.postedAmount c id ≠ none
  · obtain ⟨staged, hs⟩ := staged_iff.mpr hall
    refine ⟨.reportTotal, .report hall ?_⟩
    cases htotal : r.postedTotal c with
    | none => rfl
    | some total =>
      have ht := stagedTotal_of_staged hs
      rw [← postedTotal_of_staged hs, htotal] at ht
      rw [add_of_staged hs ht] at h
      cases h
  · simp only [not_forall, not_not] at hall
    obtain ⟨id, hid, hnone⟩ := hall
    exact ⟨.serviceTotal, .service hid hnone⟩

theorem get?_settled_of_not_mem {id : String} (hid : id ∉ serviceIds c.lines) :
    (c.lines.foldl (settle staged) r.serviceTotals).get? id = r.serviceTotals.get? id := by
  have hnone : firstName id c.lines = none := by
    rw [mem_serviceIds, ← firstName_isSome_iff] at hid
    exact Option.not_isSome_iff_eq_none.mp hid
  rw [mem_serviceIds] at hid
  rw [get?_eq_views, nameIn_settle, amountIn_settle, if_neg hid, hnone, Option.or_none, ← get?_eq_views]

theorem get?_settled_of_mem (hs : c.lines.foldlM r.stage .empty = .ok staged) {id : String}
    (hid : id ∈ serviceIds c.lines) :
    ∃ name amount, (nameIn r.serviceTotals id).or (firstName id c.lines) = some name ∧
      r.postedAmount c id = some amount ∧ staged.get? id = some amount ∧
      (c.lines.foldl (settle staged) r.serviceTotals).get? id = some ⟨name, amount⟩ := by
  obtain ⟨amount, hget, hposted⟩ := get?_staged hs hid
  rw [mem_serviceIds] at hid
  obtain ⟨first, hfirst⟩ := Option.isSome_iff_exists.mp (firstName_isSome_iff.mpr hid)
  have hname : ∃ name, (nameIn r.serviceTotals id).or (firstName id c.lines) = some name := by
    rw [hfirst]
    cases nameIn r.serviceTotals id with
    | none => exact ⟨first, rfl⟩
    | some name => exact ⟨name, rfl⟩
  obtain ⟨name, hname⟩ := hname
  refine ⟨name, amount, hname, hposted, hget, ?_⟩
  rw [get?_eq_views, nameIn_settle, amountIn_settle, if_pos hid, hname, hget]
  rfl

theorem untouched_settled :
    untouched (c.lines.foldl (settle staged) r.serviceTotals) c = untouched r.serviceTotals c := by
  have hentries : ((c.lines.foldl (settle staged) r.serviceTotals).entries.filter fun e => e.1 ∉ serviceIds c.lines) =
      r.serviceTotals.entries.filter fun e => e.1 ∉ serviceIds c.lines := by
    refine Table.entries_eq_of_mem_iff ((Table.ascending _).filter _) ((Table.ascending _).filter _) ?_
    intro id t
    simp only [List.mem_filter, Table.mem_entries_iff, decide_eq_true_eq]
    refine and_congr_left fun hid => ?_
    rw [get?_settled_of_not_mem hid]
  rw [untouched, untouched, hentries]

theorem touched_settled (hs : c.lines.foldlM r.stage .empty = .ok staged) :
    touched (c.lines.foldl (settle staged) r.serviceTotals) c = staged.values := by
  have hentries : ((c.lines.foldl (settle staged) r.serviceTotals).entries.filter fun e =>
      e.1 ∈ serviceIds c.lines).map (fun e => (e.1, e.2.amount)) = staged.entries := by
    refine Table.entries_eq_of_mem_iff (List.pairwise_map.mpr ((Table.ascending _).filter _)) staged.ascending ?_
    intro id a
    rw [Table.mem_entries_iff]
    constructor
    · intro hmem
      obtain ⟨⟨_, t⟩, ht, heq⟩ := List.mem_map.mp hmem
      cases heq
      obtain ⟨hentry, hid⟩ := List.mem_filter.mp ht
      obtain ⟨name, amount, -, -, hstaged, hget⟩ := get?_settled_of_mem hs (of_decide_eq_true hid)
      rw [(Table.mem_entries_iff _ _ _).mp hentry] at hget
      cases hget
      exact hstaged
    · intro hget
      have hid : id ∈ serviceIds c.lines := by
        rw [← names_staged hs, Table.mem_names_iff, hget]
        rfl
      obtain ⟨name, amount, -, -, hstaged, hentry⟩ := get?_settled_of_mem hs hid
      rw [hget] at hstaged
      cases hstaged
      exact List.mem_map.mpr ⟨(id, ⟨name, a⟩),
        List.mem_filter.mpr ⟨(Table.mem_entries_iff _ _ _).mpr hentry, decide_eq_true hid⟩, rfl⟩
  have hvalues := congrArg (List.map (·.2)) hentries
  rw [List.map_map] at hvalues
  exact hvalues

theorem posted_add (h : (add c).run r = .ok () r') : Posted r c r' := by
  have hhead := sameHead_add h
  obtain ⟨staged, total, hs, ht, rfl⟩ := add_staged h
  refine ⟨rfl, ?_, ?_, ?_, ?_, hhead⟩
  · intro id hid t hknown
    obtain ⟨name, amount, hname, hposted, -, hget⟩ := get?_settled_of_mem hs hid
    rw [nameIn, hknown, Option.map_some, Option.some_or] at hname
    cases hname
    exact ⟨amount, hposted, hget⟩
  · intro id hid hunknown
    obtain ⟨name, amount, hname, hposted, -, hget⟩ := get?_settled_of_mem hs hid
    rw [nameIn, hunknown, Option.map_none, Option.none_or] at hname
    exact ⟨name, amount, hname, hposted, hget⟩
  · intro id hid
    exact get?_settled_of_not_mem hid
  · rw [untouched_settled, touched_settled hs]
    exact Amount.orOverflow_eq_ok_iff.mp ((stagedTotal_of_staged hs).symm.trans ht)

/-- Adding a cost enters it into the report, or else a sum overflows and the call leaves the report as it was. -/
theorem add_all_or_nothing (r : Report) (c : OrderCost) :
    (∀ amount, Overflows r c amount → (add c).run r = .error (.overflow amount) r) ∧
      ((∀ amount, ¬Overflows r c amount) → ∃ r', (add c).run r = .ok () r' ∧ Posted r c r') := by
  constructor
  · intro amount h
    exact add_of_overflows h
  · intro hnone
    cases hadd : (add c).run r with
    | ok _ r' => exact ⟨r', rfl, posted_add hadd⟩
    | error e r' =>
      obtain ⟨amount, hoverflow⟩ := overflows_of_add_error hadd
      exact absurd hoverflow (hnone amount)

namespace Small

def line (serviceId name : String) (amount : Nat) : ServiceCost :=
  ⟨serviceId, name, (Decimal.ofNat amount).getD .zero⟩

/-- Three for two services, and a total that does not agree with them. -/
def drifted : Report :=
  { new "c-1" ⟨2024, 2, 1, by decide⟩ ⟨2024, 2, 28, by decide⟩ with
    total := (Decimal.ofNat 7).getD .zero
    serviceTotals := Table.ofList [("b", ⟨"Tape", (Decimal.ofNat 2).getD .zero⟩), ("c", ⟨"Box", (Decimal.ofNat 1).getD .zero⟩)] }

def costOf (lines : List ServiceCost) : OrderCost := { OrderCost.new "o-1" none ⟨2024, 2, 3, by decide⟩ with lines }

def repeated : OrderCost := costOf [line "a" "Label" 1, line "b" "Tapes" 3, line "a" "Labels" 5]

def beyondService : OrderCost := costOf [line "a" "Label" 1, line "c" "Box" Decimal.maxCoefficient]

def beyondReport : OrderCost := costOf [line "a" "Label" Decimal.maxCoefficient]

end Small

/-- Six for a new service, five for a known one and one for the other make twelve. What is too large for a service, or
    for the report only, leaves both out. -/
theorem add_all_or_nothing_drifted :
    (∀ amount, ¬Overflows Small.drifted Small.repeated amount) ∧
      (∃ r', (add Small.repeated).run Small.drifted = .ok () r' ∧ Posted Small.drifted Small.repeated r') ∧
      Overflows Small.drifted Small.beyondService .serviceTotal ∧
      (add Small.beyondService).run Small.drifted = .error (.overflow .serviceTotal) Small.drifted ∧
      Overflows Small.drifted Small.beyondReport .reportTotal ∧
      (add Small.beyondReport).run Small.drifted = .error (.overflow .reportTotal) Small.drifted := by
  have hnone : ∀ amount, ¬Overflows Small.drifted Small.repeated amount := by
    have hposted : ∀ id ∈ serviceIds Small.repeated.lines, Small.drifted.postedAmount Small.repeated id ≠ none := by
      decide +kernel
    intro amount h
    cases h with
    | service hid hnone => exact absurd hnone (hposted _ hid)
    | report _ hnone => exact absurd hnone (by decide +kernel)
  obtain ⟨r', hadd, hposted⟩ := (add_all_or_nothing Small.drifted Small.repeated).2 hnone
  have hservice : Overflows Small.drifted Small.beyondService .serviceTotal :=
    .service (by decide +kernel : "c" ∈ _) (by decide +kernel)
  have hreport : Overflows Small.drifted Small.beyondReport .reportTotal :=
    .report (by decide +kernel) (by decide +kernel)
  exact ⟨hnone, ⟨r', hadd, hposted⟩, hservice, (add_all_or_nothing _ _).1 _ hservice, hreport,
    (add_all_or_nothing _ _).1 _ hreport⟩

end Report

end Tariff
