/-
  Tariff.Proofs.Billing.Additivity — bills of parts and of the whole.

  A span of days can be billed at once or cut in two after any day, and services can be
  billed together or apart. Either way the lines of the whole are those of the parts, in
  some order (`allLines_orders_perm`, `allLines_services_perm`), and while they fit in
  cents the totals add up exactly.
  - `run_additive`: both cuts.
-/
import Tariff.Proofs.Billing.Reference
import Tariff.Proofs.Date

namespace Tariff.Billing

open Decimal Report

/-! ## Bills by their lines -/

def exactCharges (catalog : Catalog) (r : Request) (orders : List Order) : Rat :=
  exactSum ((allLines (servicesFor catalog r) (ordersFor r orders)).map (·.amount))

structure ExactTotals (ls : List ServiceCost) (report : Report) : Prop where
  service : ∀ id, (amountIn report.serviceTotals id).value = exactSum (amountsOf id ls)
  total : report.total.value = exactSum (ls.map (·.amount))

theorem resummed_exact {places : Nat} {r : Report} (hr : Booked r) (h : Fitting places r.lines) :
    ExactTotals r.lines r.resummed := by
  obtain ⟨total, htotal, hvalue⟩ := serviceSum_exact hr h
  constructor
  · intro id
    exact amountIn_exact hr h id
  · show (r.serviceSum.getD r.total).value = _
    rw [htotal]
    exact hvalue

theorem billPieces_exact {r : Request} {services : List Service} {pieces : List (List Order)}
    (h : Fitting 2 (allLines services pieces.flatten)) :
    (billPieces r services false pieces).report.orders = costs services pieces.flatten ∧
      ExactTotals (allLines services pieces.flatten) (billPieces r services false pieces).report := by
  have horders := merged_orders_of_fitting h (r := r)
  have hlines : (merged r services false pieces).lines = allLines services pieces.flatten := by
    rw [lines, horders, (costs_of_fitting h).2.1]
  have hb := booked_merged r services false pieces
  have hexact := resummed_exact hb (hlines ▸ h)
  rw [hlines] at hexact
  rw [billPieces_report]
  exact ⟨horders, hexact.service, hexact.total⟩

@[simp] theorem allLines_no_services (orders : List Order) : allLines [] orders = [] :=
  List.flatMap_eq_nil_iff.mpr fun _ _ => rfl

/-- A run whose charges fit in cents bills every order in scope, and its totals are exact. -/
theorem run_exact (settings : Settings) (available : Nat) {catalog : Catalog} {r : Request} {orders : List Order}
    (h : exactCharges catalog r orders * 100 ≤ maxCoefficient) :
    (run catalog settings available r orders false).report.orders =
        costs (servicesFor catalog r) (ordersFor r orders) ∧
      ExactTotals (allLines (servicesFor catalog r) (ordersFor r orders))
        (run catalog settings available r orders false).report := by
  obtain ⟨pieces, hrun, hpieces⟩ := run_cases catalog settings available r orders
  rw [selected_eq] at hrun hpieces
  rw [inScope_eq] at hpieces
  rw [hrun]
  rcases hpieces with ⟨hs, rfl⟩ | hp
  · rw [hs]
    have hnil : Fitting 2 (allLines [] ([] : List (List Order)).flatten) := .nil 2
    simpa using billPieces_exact (r := r) hnil
  · have hfit := allLines_fitting h
    rw [← hp] at hfit ⊢
    exact billPieces_exact hfit

/-! ## Adding bills -/

/-- A report whose totals are those of two others together. A service without an entry counts as zero. -/
structure Adds (whole first second : Report) : Prop where
  service : ∀ id, (amountIn whole.serviceTotals id).value =
    (amountIn first.serviceTotals id).value + (amountIn second.serviceTotals id).value
  total : whole.total.value = first.total.value + second.total.value

theorem amountsOf_perm {ks ls : List ServiceCost} (h : ks.Perm ls) (id : String) :
    (amountsOf id ks).Perm (amountsOf id ls) :=
  (h.filter _).map _

theorem adds_of_perm {ks ms ls : List ServiceCost} (hp : (ks ++ ms).Perm ls) {whole first second : Report}
    (h : ExactTotals ls whole) (h1 : ExactTotals ks first) (h2 : ExactTotals ms second) :
    Adds whole first second := by
  constructor
  · intro id
    rw [h.service, h1.service, h2.service, ← exactSum_perm (amountsOf_perm hp id), amountsOf_append,
      exactSum_append]
  · rw [h.total, h1.total, h2.total, ← exactSum_perm (hp.map _), List.map_append, exactSum_append]

theorem allLines_nonneg (services : List Service) (orders : List Order) :
    0 ≤ exactSum ((allLines services orders).map (·.amount)) := by
  rw [← magnitude_eq_exactSum]
  · exact magnitude_nonneg _
  refine List.forall_mem_map.mpr ?_
  intro l hl
  obtain ⟨o, -, ho⟩ := List.mem_flatMap.mp hl
  exact (linesOf_charged ho).pos.le

/-- Charges of the whole that fit leave room for those of either part. -/
theorem charges_of_perm {services as bs : List Service} {orders os ps : List Order}
    (hp : (allLines as os ++ allLines bs ps).Perm (allLines services orders))
    (h : exactSum ((allLines services orders).map (·.amount)) * 100 ≤ maxCoefficient) :
    exactSum ((allLines as os).map (·.amount)) * 100 ≤ maxCoefficient ∧
      exactSum ((allLines bs ps).map (·.amount)) * 100 ≤ maxCoefficient := by
  have ha := allLines_nonneg as os
  have hb := allLines_nonneg bs ps
  rw [← exactSum_perm (hp.map _), List.map_append, exactSum_append] at h
  constructor <;> linarith

/-! ## Cutting the orders -/

theorem allLines_orders_perm (services : List Service) (p : Order → Bool) (orders : List Order) :
    (allLines services (orders.filter p) ++ allLines services (orders.filter fun o => !p o)).Perm
      (allLines services orders) := by
  unfold allLines
  rw [← List.flatMap_append]
  exact (List.filter_append_perm p orders).flatMap_right _

theorem costs_filter {services : List Service} {p : Order → Bool} {q : OrderCost → Bool} {orders : List Order}
    (h : ∀ o c, (evaluate services o).1 = some c → q c = p o) :
    costs services (orders.filter p) = (costs services orders).filter q := by
  unfold costs
  rw [List.filterMap_filter, List.filter_filterMap]
  refine List.filterMap_congr ?_
  intro o _
  cases hc : (evaluate services o).1 with
  | none => simp
  | some c => by_cases hp : p o = true <;> simp [Option.filter, h o c hc, hp]

/-- The orders up to a day of a span. -/
theorem ordersFor_until (customerId : String) (included : Option (List String)) (a : Date) {b c : Date} (hbc : b < c)
    (orders : List Order) :
    ordersFor ⟨customerId, a, b, included⟩ orders =
      (ordersFor ⟨customerId, a, c, included⟩ orders).filter fun o => decide (o.date ≤ b) := by
  unfold ordersFor
  rw [List.filter_filter]
  refine List.filter_congr fun o _ => ?_
  have hle : o.date ≤ b → o.date ≤ c := fun h => Date.le_trans h (Date.le_of_lt hbc)
  rw [← Bool.decide_and]
  exact decide_eq_decide.mpr ⟨fun ⟨h1, h2, h3⟩ => ⟨h3, h1, h2, hle h3⟩, fun ⟨h3, h1, h2, _⟩ => ⟨h1, h2, h3⟩⟩

/-- The orders after a day of a span are those from the next day on. -/
theorem ordersFor_from (customerId : String) (included : Option (List String)) {a b next : Date} (c : Date)
    (hab : a ≤ b) (hnext : ∀ d : Date, next ≤ d ↔ b < d) (orders : List Order) :
    ordersFor ⟨customerId, next, c, included⟩ orders =
      (ordersFor ⟨customerId, a, c, included⟩ orders).filter fun o => !decide (o.date ≤ b) := by
  unfold ordersFor
  rw [List.filter_filter]
  refine List.filter_congr fun o _ => ?_
  have hle : b < o.date → a ≤ o.date := fun h => Date.le_trans hab (Date.le_of_lt h)
  rw [← decide_not, ← Bool.decide_and]
  refine decide_eq_decide.mpr ?_
  simp only [hnext, Date.not_le]
  exact ⟨fun ⟨h1, h2, h3⟩ => ⟨h2, h1, hle h2, h3⟩, fun ⟨h2, h1, _, h3⟩ => ⟨h1, h2, h3⟩⟩

/-! ## Cutting the services -/

theorem allLines_services_perm (p : Service → Bool) (services : List Service) (orders : List Order) :
    (allLines (services.filter p) orders ++ allLines (services.filter fun s => !p s) orders).Perm
      (allLines services orders) := by
  unfold allLines
  refine (List.flatMap_append_perm orders _ _).trans (List.Perm.flatMap_left orders ?_)
  intro o _
  rw [linesOf, linesOf, ← List.filterMap_append]
  exact (List.filter_append_perm p services).filterMap _

/-- The services of one of two sets that share none, among those of both. -/
theorem servicesFor_part {catalog : Catalog} {customerId : String} {start stop : Date} {both part : List String}
    {p : Service → Bool} (h : ∀ s : Service, s.id ∈ part ↔ s.id ∈ both ∧ p s = true) :
    servicesFor catalog ⟨customerId, start, stop, some part⟩ =
      (servicesFor catalog ⟨customerId, start, stop, some both⟩).filter p := by
  unfold servicesFor
  rw [List.filter_filter]
  refine List.filter_congr fun s _ => ?_
  simp only [Option.mem_some_iff, forall_eq', h s, Bool.decide_and]
  cases p s <;> simp

/-! ## Cutting a bill -/

def bill (catalog : Catalog) (settings : Settings) (available : Nat) (orders : List Order) (r : Request) : Report :=
  (run catalog settings available r orders false).report

/-- The orders of the whole, as they come, are those of the first report up to a day and those of the
    second one after it. -/
structure Interleaves (orders : List Order) (day : Date) (whole first second : Report) : Prop where
  inOrder : (whole.orders.map (·.orderId)).Sublist (orders.map (·.id))
  before : whole.orders.filter (fun c => decide (c.date ≤ day)) = first.orders
  after : whole.orders.filter (fun c => decide (day < c.date)) = second.orders

/-- Bills of the days up to one and of those after it add up to the bill of all of them, and so do bills of
    two sets of services that share none. -/
theorem run_additive (catalog : Catalog) (settings : Settings) (available : Nat) (orders : List Order)
    (customerId : String) :
    (∀ (included : Option (List String)) (a b c : Date), a ≤ b → b < c →
      exactCharges catalog ⟨customerId, a, c, included⟩ orders * 100 ≤ maxCoefficient →
      ∃ next, b.next? = some next ∧
        Adds (bill catalog settings available orders ⟨customerId, a, c, included⟩)
          (bill catalog settings available orders ⟨customerId, a, b, included⟩)
          (bill catalog settings available orders ⟨customerId, next, c, included⟩) ∧
        Interleaves orders b (bill catalog settings available orders ⟨customerId, a, c, included⟩)
          (bill catalog settings available orders ⟨customerId, a, b, included⟩)
          (bill catalog settings available orders ⟨customerId, next, c, included⟩)) ∧
    ∀ (start stop : Date) (one other both : List String), (∀ id ∈ one, id ∉ other) →
      (∀ id, id ∈ both ↔ id ∈ one ∨ id ∈ other) →
      exactCharges catalog ⟨customerId, start, stop, some both⟩ orders * 100 ≤ maxCoefficient →
      Adds (bill catalog settings available orders ⟨customerId, start, stop, some both⟩)
        (bill catalog settings available orders ⟨customerId, start, stop, some one⟩)
        (bill catalog settings available orders ⟨customerId, start, stop, some other⟩) := by
  constructor
  · intro included a b c hab hbc h
    obtain ⟨next, hnext, hfirst⟩ := Date.exists_next hbc
    have huntil := ordersFor_until customerId included a hbc orders
    have hfrom := ordersFor_from customerId included c hab hfirst orders
    have hp := allLines_orders_perm (servicesFor catalog ⟨customerId, a, c, included⟩)
      (fun o => decide (o.date ≤ b)) (ordersFor ⟨customerId, a, c, included⟩ orders)
    rw [← huntil, ← hfrom] at hp
    obtain ⟨h1, h2⟩ := charges_of_perm hp h
    obtain ⟨horders, hexact⟩ := run_exact settings available h
    obtain ⟨horders1, hexact1⟩ := run_exact settings available (r := ⟨customerId, a, b, included⟩) h1
    obtain ⟨horders2, hexact2⟩ := run_exact settings available (r := ⟨customerId, next, c, included⟩) h2
    refine ⟨next, hnext, adds_of_perm hp hexact hexact1 hexact2, ?_, ?_, ?_⟩
    · rw [bill, horders]
      exact (costs_orderIds _ _).trans (List.filter_sublist.map _)
    · rw [bill, bill, horders, horders1, huntil]
      exact (costs_filter fun o c hc => by rw [evaluate_date hc]).symm
    · rw [bill, bill, horders, horders2, hfrom]
      refine (costs_filter fun o c hc => ?_).symm
      rw [evaluate_date hc, ← decide_not]
      exact decide_eq_decide.mpr Date.not_le.symm
  · intro start stop one other both hdisjoint hboth h
    have hone : servicesFor catalog ⟨customerId, start, stop, some one⟩ =
        (servicesFor catalog ⟨customerId, start, stop, some both⟩).filter fun s => decide (s.id ∈ one) := by
      refine servicesFor_part ?_
      intro s
      rw [hboth, decide_eq_true_eq]
      exact ⟨fun hs => ⟨.inl hs, hs⟩, fun hs => hs.2⟩
    have hother : servicesFor catalog ⟨customerId, start, stop, some other⟩ =
        (servicesFor catalog ⟨customerId, start, stop, some both⟩).filter fun s => !decide (s.id ∈ one) := by
      refine servicesFor_part ?_
      intro s
      rw [hboth, ← decide_not, decide_eq_true_eq]
      exact ⟨fun hs => ⟨.inr hs, fun h1 => hdisjoint s.id h1 hs⟩, fun ⟨hs, h1⟩ => hs.resolve_left h1⟩
    have hp := allLines_services_perm (fun s => decide (s.id ∈ one))
      (servicesFor catalog ⟨customerId, start, stop, some both⟩) (ordersFor ⟨customerId, start, stop, some both⟩ orders)
    rw [← hone, ← hother] at hp
    obtain ⟨h1, h2⟩ := charges_of_perm hp h
    exact adds_of_perm hp (run_exact settings available h).2
      (run_exact settings available (r := ⟨customerId, start, stop, some one⟩) h1).2
      (run_exact settings available (r := ⟨customerId, start, stop, some other⟩) h2).2

namespace Small

def tenth : Date := ⟨2024, 1, 10, by decide⟩

def late (id : String) : Order := { order id none with date := ⟨2024, 1, 20, by decide⟩ }

def span : List Order := [order "o-1" none, late "o-2", order "o-3" none]

def wares : Catalog := ⟨[label, tape]⟩

end Small

/-- Eight cents for each of three orders: sixteen up to the tenth and eight after it, or twelve for the
    labels and twelve for the tape. -/
theorem run_additive_small :
    Small.request.start ≤ Small.tenth ∧ Small.tenth < Small.request.stop ∧
      (∀ id ∈ ["cs-a"], id ∉ ["cs-b"]) ∧ (∀ id, id ∈ ["cs-b", "cs-a"] ↔ id ∈ ["cs-a"] ∨ id ∈ ["cs-b"]) ∧
      exactCharges Small.wares Small.request Small.span * 100 ≤ maxCoefficient ∧
      exactCharges Small.wares { Small.request with included := some ["cs-b", "cs-a"] } Small.span * 100 ≤
        maxCoefficient ∧
      (∃ next, Small.tenth.next? = some next ∧
        Adds (bill Small.wares .sequential 1 Small.span Small.request)
          (bill Small.wares .sequential 1 Small.span { Small.request with stop := Small.tenth })
          (bill Small.wares .sequential 1 Small.span { Small.request with start := next }) ∧
        Interleaves Small.span Small.tenth (bill Small.wares .sequential 1 Small.span Small.request)
          (bill Small.wares .sequential 1 Small.span { Small.request with stop := Small.tenth })
          (bill Small.wares .sequential 1 Small.span { Small.request with start := next })) ∧
      Adds (bill Small.wares .sequential 1 Small.span { Small.request with included := some ["cs-b", "cs-a"] })
        (bill Small.wares .sequential 1 Small.span { Small.request with included := some ["cs-a"] })
        (bill Small.wares .sequential 1 Small.span { Small.request with included := some ["cs-b"] }) ∧
      (bill Small.wares .sequential 1 Small.span Small.request).total.value = 6 / 25 := by
  have hdays : Small.request.start ≤ Small.tenth ∧ Small.tenth < Small.request.stop := by decide
  have hone : ∀ id ∈ ["cs-a"], id ∉ ["cs-b"] := by decide
  have hboth : ∀ id, id ∈ ["cs-b", "cs-a"] ↔ id ∈ ["cs-a"] ∨ id ∈ ["cs-b"] := by
    intro id
    simp [or_comm]
  have hall : exactCharges Small.wares Small.request Small.span * 100 ≤ maxCoefficient := by decide +kernel
  have hsome : exactCharges Small.wares { Small.request with included := some ["cs-b", "cs-a"] } Small.span * 100 ≤
      maxCoefficient := by decide +kernel
  obtain ⟨cutDays, cutServices⟩ := run_additive Small.wares .sequential 1 Small.span "c-1"
  exact ⟨hdays.1, hdays.2, hone, hboth, hall, hsome, cutDays none _ _ _ hdays.1 hdays.2 hall,
    cutServices _ _ _ _ _ hone hboth hsome, by decide +kernel⟩

end Tariff.Billing
