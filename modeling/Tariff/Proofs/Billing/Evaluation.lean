/-
  Tariff.Proofs.Billing.Evaluation — what billing one order comes to.

  A service gives an order a line (`lineOf`), cannot be charged for it (`failureOf`), or
  neither (`tryService_cases`). A line is left out only if the order total cannot take it.
  - `evaluate_skipped`: what is skipped, by the running total of the order.
  - `evaluate_cost`: the total of a cost is the sum of its lines, which are in cents.
  - `evaluate_of_fitting`: lines that fit together are all there.
-/
import Tariff.Billing
import Tariff.Proofs.Report.Exact

namespace Tariff.Billing

open Decimal Report

/-! ## One service -/

/-- The line of a service that applies to an order and charges something for it. -/
def lineOf (o : Order) (s : Service) : Option ServiceCost :=
  if s.appliesTo o then
    match s.charge o with
    | .ok amount => if .zero < amount then some ⟨s.serviceId, s.serviceName, amount⟩ else none
    | .error _ => none
  else none

/-- The entry of a service that applies to an order but cannot be charged for it. -/
def failureOf (o : Order) (s : Service) : Option Skipped :=
  if s.appliesTo o then
    match s.charge o with
    | .ok _ => none
    | .error e => some ⟨o.id, some s.serviceId, e⟩
  else none

def Tally.offer (o : Order) (t : Tally) (l : ServiceCost) : Tally :=
  match t.cost.total.add l.amount with
  | some total => { t with cost := { t.cost with lines := t.cost.lines ++ [l], total } }
  | none => { t with skipped := t.skipped ++ [⟨o.id, some l.serviceId, .overflow .orderTotal⟩] }

theorem run_charged (o : Order) (s : Service) (c : OrderCost) :
    (charged o s).run c = match s.charge o with
      | .error e => .error e c
      | .ok amount => if .zero < amount then (OrderCost.push ⟨s.serviceId, s.serviceName, amount⟩).run c else .ok () c := by
  rw [charged, EStateM.run_bind]
  cases s.charge o with
  | error e => rfl
  | ok amount =>
    simp only [ofExcept, EStateM.run_pure]
    split <;> rfl

theorem tryService_of_line {o : Order} {s : Service} {l : ServiceCost} (h : lineOf o s = some l) :
    failureOf o s = none ∧ l.serviceId = s.serviceId ∧ ∀ t, tryService o t s = t.offer o l := by
  unfold lineOf at h
  split at h
  · rename_i happ
    split at h
    · rename_i amount hcharge
      split at h
      · rename_i hpos
        cases h
        refine ⟨by simp only [failureOf, happ, if_true, hcharge], rfl, fun t => ?_⟩
        unfold tryService Tally.offer
        simp only [happ, if_true, run_charged, hcharge, hpos, OrderCost.run_push]
        cases t.cost.total.add amount <;> rfl
      · cases h
    · cases h
  · cases h

theorem tryService_of_failure {o : Order} {s : Service} {x : Skipped} (h : failureOf o s = some x) :
    lineOf o s = none ∧ x.serviceId = some s.serviceId ∧
      ∀ t, tryService o t s = { t with skipped := t.skipped ++ [x] } := by
  unfold failureOf at h
  split at h
  · rename_i happ
    split at h
    · cases h
    · rename_i e hcharge
      cases h
      refine ⟨by simp only [lineOf, happ, if_true, hcharge], rfl, fun t => ?_⟩
      simp only [tryService, happ, if_true, run_charged, hcharge]
  · cases h

theorem tryService_of_neither {o : Order} {s : Service} (hl : lineOf o s = none) (hf : failureOf o s = none)
    (t : Tally) : tryService o t s = t := by
  unfold lineOf at hl
  unfold failureOf at hf
  unfold tryService
  by_cases happ : s.appliesTo o
  · rw [if_pos happ] at hl hf ⊢
    cases hcharge : s.charge o with
    | error e => rw [hcharge] at hf; cases hf
    | ok amount =>
      rw [hcharge] at hl
      by_cases hpos : Decimal.zero < amount
      · simp [hpos] at hl
      · simp only [run_charged, hcharge, hpos, if_false]
  · rw [if_neg happ]

/-- What trying a service does, in three cases. -/
theorem tryService_cases (o : Order) (s : Service) :
    -- A line is offered.
    (∃ l, lineOf o s = some l ∧ failureOf o s = none ∧ l.serviceId = s.serviceId ∧
      ∀ t, tryService o t s = t.offer o l) ∨
    -- A failed charge is noted.
    (∃ x, lineOf o s = none ∧ failureOf o s = some x ∧ x.serviceId = some s.serviceId ∧
      ∀ t, tryService o t s = { t with skipped := t.skipped ++ [x] }) ∨
    -- The service does not apply, or charges nothing.
    (lineOf o s = none ∧ failureOf o s = none ∧ ∀ t, tryService o t s = t) := by
  cases hl : lineOf o s with
  | some l =>
    obtain ⟨hf, hid, ht⟩ := tryService_of_line hl
    exact .inl ⟨l, rfl, hf, hid, ht⟩
  | none =>
    cases hf : failureOf o s with
    | some x =>
      obtain ⟨-, hid, ht⟩ := tryService_of_failure hf
      exact .inr (.inl ⟨x, rfl, rfl, hid, ht⟩)
    | none => exact .inr (.inr ⟨rfl, rfl, tryService_of_neither hl hf⟩)

/-! ## Lines -/

theorem roundToCents_scale_le (d : Decimal) : d.roundToCents.scale ≤ 2 := by
  unfold roundToCents
  split
  · assumption
  · exact Nat.le_refl 2

theorem charge_scale_le {s : Service} {o : Order} {d : Decimal} (h : s.charge o = .ok d) : d.scale ≤ 2 := by
  unfold Service.charge at h
  split at h
  · cases h
    exact roundToCents_scale_le _
  · cases hsum : s.calculations.foldlM (s.addAmount o) .zero with
    | error e => rw [hsum] at h; cases h
    | ok sum =>
      rw [hsum] at h
      cases h
      exact roundToCents_scale_le _

structure Charged (l : ServiceCost) : Prop where
  pos : 0 < l.amount.value
  scale_le : l.amount.scale ≤ 2

theorem charged_of_lineOf {o : Order} {s : Service} {l : ServiceCost} (h : lineOf o s = some l) : Charged l := by
  unfold lineOf at h
  split at h
  · split at h
    · rename_i hcharge
      split at h
      · rename_i hpos
        cases h
        exact ⟨by rw [← value_zero]; exact hpos, charge_scale_le hcharge⟩
      · cases h
    · cases h
  · cases h

/-- Charges whose exact sum fits in cents. -/
theorem fitting_of_charged {ls : List ServiceCost} (hc : ∀ l ∈ ls, Charged l)
    (h : exactSum (ls.map (·.amount)) * 100 ≤ maxCoefficient) : Fitting 2 ls := by
  have hpos : ∀ d ∈ ls.map (·.amount), 0 ≤ d.value := by
    refine List.forall_mem_map.mpr ?_
    intro l hl
    exact (hc l hl).pos.le
  have hcents : (tenTo 2 : Rat) = 100 := by rw [tenTo_cast]; norm_num
  constructor
  · intro l hl
    exact (hc l hl).scale_le
  · unfold Fits
    rw [abs_of_nonneg (magnitude_nonneg _), magnitude_eq_exactSum hpos, hcents]
    exact h

/-! ## Runs over the services -/

structure Tally.Sound (o : Order) (t : Tally) : Prop where
  orderId : t.cost.orderId = o.id
  reference : t.cost.reference = o.text .referenceNumber
  date : t.cost.date = o.date
  summed : t.cost.Summed
  charged : ∀ l ∈ t.cost.lines, Charged l
  skipped : ∀ x ∈ t.skipped, x.serviceId.isSome

def Tally.new (o : Order) : Tally := ⟨.new o.id (o.text .referenceNumber) o.date, []⟩

theorem sound_new (o : Order) : (Tally.new o).Sound o := by
  refine ⟨rfl, rfl, rfl, rfl, ?_, ?_⟩
  · intro l hl
    cases hl
  · intro x hx
    cases hx

theorem sound_note {o : Order} {t : Tally} (h : t.Sound o) {x : Skipped} (hx : x.serviceId.isSome) :
    Tally.Sound o { t with skipped := t.skipped ++ [x] } where
  orderId := h.orderId
  reference := h.reference
  date := h.date
  summed := h.summed
  charged := h.charged
  skipped y hy := by
    rcases List.mem_append.mp hy with hy | hy
    · exact h.skipped y hy
    · rw [List.mem_singleton.mp hy]; exact hx

theorem sound_offer {o : Order} {t : Tally} (h : t.Sound o) {l : ServiceCost} (hl : Charged l) :
    (t.offer o l).Sound o := by
  unfold Tally.offer
  cases hadd : t.cost.total.add l.amount with
  | none => exact sound_note h rfl
  | some total =>
    refine ⟨h.orderId, h.reference, h.date, h.summed.add hadd, ?_, h.skipped⟩
    intro k hk
    rcases List.mem_append.mp hk with hk | hk
    · exact h.charged k hk
    · rw [List.mem_singleton.mp hk]; exact hl

theorem sound_tryService {o : Order} {t : Tally} (h : t.Sound o) (s : Service) : (tryService o t s).Sound o := by
  rcases tryService_cases o s with ⟨l, hl, -, -, ht⟩ | ⟨x, -, -, hid, ht⟩ | ⟨-, -, ht⟩
  · rw [ht]; exact sound_offer h (charged_of_lineOf hl)
  · rw [ht]; exact sound_note h (by rw [hid]; rfl)
  · rw [ht]; exact h

theorem sound_foldl {o : Order} {t : Tally} (h : t.Sound o) (services : List Service) :
    (services.foldl (tryService o) t).Sound o := by
  induction services generalizing t with
  | nil => exact h
  | cons s rest ih => exact ih (sound_tryService h s)

/-! ## What is skipped -/

/-- The entry of a service, if it is left out of an order whose lines so far come to `total`. -/
def leftOut (o : Order) (total : Decimal) (s : Service) : Option Skipped :=
  match lineOf o s with
  | some l => if (total.add l.amount).isNone then some ⟨o.id, some s.serviceId, .overflow .orderTotal⟩ else none
  | none => failureOf o s

/-- What the lines of an order come to with that of a service, if it is taken. -/
def totalWith (o : Order) (total : Decimal) (s : Service) : Decimal :=
  match lineOf o s with
  | some l => (total.add l.amount).getD total
  | none => total

/-- The entries of an order, service by service, along with the running total. -/
def leftOuts (o : Order) : Decimal → List Service → List Skipped
  | _, [] => []
  | total, s :: rest => (leftOut o total s).toList ++ leftOuts o (totalWith o total s) rest

theorem tryService_skipped (o : Order) (t : Tally) (s : Service) :
    (tryService o t s).skipped = t.skipped ++ (leftOut o t.cost.total s).toList ∧
      (tryService o t s).cost.total = totalWith o t.cost.total s := by
  unfold leftOut totalWith
  rcases tryService_cases o s with ⟨l, hl, -, hid, ht⟩ | ⟨x, hl, hf, -, ht⟩ | ⟨hl, hf, ht⟩
  · simp only [ht, hl, Tally.offer, hid]
    cases t.cost.total.add l.amount with
    | none => exact ⟨rfl, rfl⟩
    | some total => exact ⟨(List.append_nil _).symm, rfl⟩
  · rw [ht, hl, hf]
    exact ⟨rfl, rfl⟩
  · rw [ht, hl, hf]
    exact ⟨(List.append_nil _).symm, rfl⟩

theorem foldl_tryService_skipped (o : Order) (t : Tally) (services : List Service) :
    (services.foldl (tryService o) t).skipped = t.skipped ++ leftOuts o t.cost.total services := by
  induction services generalizing t with
  | nil => exact (List.append_nil _).symm
  | cons s rest ih =>
    obtain ⟨hs, ht⟩ := tryService_skipped o t s
    rw [List.foldl_cons, ih, hs, ht, leftOuts, List.append_assoc]

/-! ## One order -/

theorem evaluate_eq (services : List Service) (o : Order) :
    evaluate services o =
      (if (services.foldl (tryService o) (.new o)).cost.isEmpty then none
        else some (services.foldl (tryService o) (.new o)).cost,
      (services.foldl (tryService o) (.new o)).skipped) := rfl

theorem evaluate_skipped (services : List Service) (o : Order) :
    (evaluate services o).2 = leftOuts o .zero services :=
  foldl_tryService_skipped o (.new o) services

theorem evaluate_skipped_serviceId {services : List Service} {o : Order} {x : Skipped}
    (h : x ∈ (evaluate services o).2) : x.serviceId.isSome :=
  (sound_foldl (sound_new o) services).skipped x h

/-- The cost of an order is that of a sound tally, and has lines. -/
theorem evaluate_tally {services : List Service} {o : Order} {c : OrderCost} (h : (evaluate services o).1 = some c) :
    Tally.Sound o ⟨c, (evaluate services o).2⟩ ∧ c.lines ≠ [] := by
  have hs := sound_foldl (sound_new o) services
  rw [evaluate_eq] at h ⊢
  split at h
  · cases h
  · rename_i hlines
    cases h
    exact ⟨hs, fun hnil => hlines (List.isEmpty_iff.mpr hnil)⟩

/-- What is known of the cost of an order. -/
theorem evaluate_cost {services : List Service} {o : Order} {c : OrderCost} (h : (evaluate services o).1 = some c) :
    c.orderId = o.id ∧ c.Summed ∧ ∀ l ∈ c.lines, Charged l :=
  have hs := (evaluate_tally h).1
  ⟨hs.orderId, hs.summed, hs.charged⟩

theorem evaluate_date {services : List Service} {o : Order} {c : OrderCost} (h : (evaluate services o).1 = some c) :
    c.date = o.date :=
  (evaluate_tally h).1.date

/-! ## Lines that fit -/

def linesOf (services : List Service) (o : Order) : List ServiceCost := services.filterMap (lineOf o)

def failuresOf (services : List Service) (o : Order) : List Skipped := services.filterMap (failureOf o)

theorem linesOf_charged {services : List Service} {o : Order} {l : ServiceCost} (h : l ∈ linesOf services o) :
    Charged l := by
  obtain ⟨s, -, hs⟩ := List.mem_filterMap.mp h
  exact charged_of_lineOf hs

theorem offer_of_fitting {o : Order} {t : Tally} (ht : t.Sound o) {l : ServiceCost}
    (h : Fitting 2 (t.cost.lines ++ [l])) :
    (t.offer o l).cost.lines = t.cost.lines ++ [l] ∧ (t.offer o l).skipped = t.skipped := by
  obtain ⟨total, hadd⟩ := total_add_of_fitting ht.summed h
  unfold Tally.offer
  rw [hadd]
  exact ⟨rfl, rfl⟩

theorem foldl_tryService_of_fitting {o : Order} {t : Tally} (ht : t.Sound o) {services : List Service}
    (h : Fitting 2 (t.cost.lines ++ services.filterMap (lineOf o))) :
    (services.foldl (tryService o) t).cost.lines = t.cost.lines ++ services.filterMap (lineOf o) ∧
      (services.foldl (tryService o) t).skipped = t.skipped ++ services.filterMap (failureOf o) := by
  -- the lines taken so far and those to come stay the same list, which fits
  induction services generalizing t with
  | nil => simp
  | cons s rest ih =>
    have hsound := sound_tryService ht s
    rw [List.foldl_cons]
    rcases tryService_cases o s with ⟨l, hl, hf, -, hts⟩ | ⟨x, hl, hf, -, hts⟩ | ⟨hl, hf, hts⟩
    · rw [List.filterMap_cons_some hl, List.append_cons] at h
      obtain ⟨h1, h2⟩ := offer_of_fitting ht (h.sublist (List.sublist_append_left _ _))
      rw [hts] at hsound ⊢
      rw [← h1] at h
      obtain ⟨hlines, hskipped⟩ := ih hsound h
      rw [hlines, hskipped, h1, h2, List.filterMap_cons_some hl, List.filterMap_cons_none hf, List.append_assoc]
      exact ⟨rfl, rfl⟩
    · rw [List.filterMap_cons_none hl] at h
      rw [hts] at hsound ⊢
      obtain ⟨hlines, hskipped⟩ := ih hsound h
      rw [hlines, hskipped, List.filterMap_cons_none hl, List.filterMap_cons_some hf, List.append_assoc]
      exact ⟨rfl, rfl⟩
    · rw [List.filterMap_cons_none hl] at h
      rw [hts] at hsound ⊢
      rw [List.filterMap_cons_none hl, List.filterMap_cons_none hf]
      exact ih ht h

/-- Lines that fit together are all there, and only failed charges are skipped. -/
theorem evaluate_of_fitting {services : List Service} {o : Order} (h : Fitting 2 (linesOf services o)) :
    ∃ total, (evaluate services o).1 = (if (linesOf services o).isEmpty then none
        else some ⟨o.id, o.text .referenceNumber, o.date, linesOf services o, total⟩) ∧
      (evaluate services o).2 = failuresOf services o := by
  have hs := sound_foldl (sound_new o) services
  obtain ⟨hlines, hskipped⟩ := foldl_tryService_of_fitting (sound_new o) h
  have hlines : (services.foldl (tryService o) (.new o)).cost.lines = linesOf services o := hlines
  refine ⟨(services.foldl (tryService o) (.new o)).cost.total, ?_, hskipped⟩
  rw [evaluate_eq, OrderCost.isEmpty, hlines, ← hs.orderId, ← hs.reference, ← hs.date, ← hlines]

end Tariff.Billing
