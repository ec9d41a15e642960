/-
  Tariff.Proofs.Report.Totals — the service totals of a report are those of its lines.

  A table of service totals is known by two views, the name and the amount of each
  service. Adding a cost (stage, then settle) and rebuilding (tally) give the same views,
  line by line, rounding included; they differ only in how the total is summed.
  - `settle_eq_tally`: the totals that `add` leaves are those of a rebuild.
  - `stage_ok_iff_tally_ok`: they fail on the same lines.
-/
import Tariff.Proofs.Table
import Tariff.Report

namespace Tariff.Report

/-! ## Views -/

def amountsOf (id : String) (lines : List ServiceCost) : List Decimal :=
  (lines.filter (·.serviceId == id)).map (·.amount)

def firstName (id : String) (lines : List ServiceCost) : Option String :=
  (lines.find? (·.serviceId == id)).map (·.serviceName)

/-- What a service comes to, zero without an entry. -/
def amountIn (t : Table ServiceTotal) (id : String) : Decimal := ((t.get? id).map (·.amount)).getD .zero

def nameIn (t : Table ServiceTotal) (id : String) : Option String := (t.get? id).map (·.serviceName)

@[simp] theorem amountsOf_nil (id : String) : amountsOf id [] = [] := rfl

theorem amountsOf_cons (id : String) (l : ServiceCost) (ls : List ServiceCost) :
    amountsOf id (l :: ls) = if id = l.serviceId then l.amount :: amountsOf id ls else amountsOf id ls := by
  by_cases h : id = l.serviceId
  · subst h; simp [amountsOf]
  · simp [amountsOf, h, Ne.symm h]

theorem firstName_cons (id : String) (l : ServiceCost) (ls : List ServiceCost) :
    firstName id (l :: ls) = if id = l.serviceId then some l.serviceName else firstName id ls := by
  by_cases h : id = l.serviceId
  · subst h; simp [firstName]
  · simp [firstName, h, Ne.symm h]

theorem firstName_isSome_iff {id : String} {ls : List ServiceCost} :
    (firstName id ls).isSome = true ↔ id ∈ ls.map (·.serviceId) := by
  simp [firstName, List.mem_map]

@[simp] theorem amountIn_empty (id : String) : amountIn .empty id = .zero := rfl
@[simp] theorem nameIn_empty (id : String) : nameIn .empty id = none := rfl

theorem amountIn_put (t : Table ServiceTotal) (name id : String) (a : ServiceTotal) :
    amountIn (t.put name a) id = if id = name then a.amount else amountIn t id := by
  unfold amountIn
  rw [Table.get?_put]
  split <;> rfl

theorem nameIn_put (t : Table ServiceTotal) (name id : String) (a : ServiceTotal) :
    nameIn (t.put name a) id = if id = name then some a.serviceName else nameIn t id := by
  unfold nameIn
  rw [Table.get?_put]
  split <;> rfl

theorem get?_eq_views (t : Table ServiceTotal) (id : String) :
    t.get? id = (nameIn t id).map fun name => ⟨name, amountIn t id⟩ := by
  unfold nameIn amountIn
  cases t.get? id <;> rfl

theorem eq_of_views {s t : Table ServiceTotal} (hn : ∀ id, nameIn s id = nameIn t id)
    (ha : ∀ id, amountIn s id = amountIn t id) : s = t := by
  refine Table.ext_get? ?_
  intro id
  rw [get?_eq_views, get?_eq_views, hn, ha]

/-! ## Services -/

def serviceIds (ls : List ServiceCost) : List String :=
  (ls.foldl (fun t l => t.put l.serviceId ()) (Table.empty : Table Unit)).names

theorem mem_serviceIds {ls : List ServiceCost} {id : String} : id ∈ serviceIds ls ↔ id ∈ ls.map (·.serviceId) := by
  have h : serviceIds ls = (Table.ofList (ls.map fun l => (l.serviceId, ()))).names := by
    rw [serviceIds, Table.ofList, List.foldl_map]
  rw [h, Table.mem_names_ofList, List.map_map]
  rfl

/-- Nothing is added up for a service without a line. -/
theorem amountsOf_of_not_mem {id : String} {ls : List ServiceCost} (h : id ∉ serviceIds ls) : amountsOf id ls = [] := by
  rw [mem_serviceIds] at h
  simp only [List.mem_map, not_exists, not_and] at h
  simpa [amountsOf] using h

theorem mapM_eq_some_map {α β : Type} {f : α → Option β} {g : α → β} {xs : List α} (h : ∀ x ∈ xs, f x = some (g x)) :
    xs.mapM f = some (xs.map g) := by
  induction xs with
  | nil => rfl
  | cons x xs ih =>
    rw [List.mapM_cons, h x List.mem_cons_self, ih fun y hy => h y (List.mem_cons_of_mem x hy)]
    rfl

/-! ## Running amounts -/

/-- A step that adds a line to the running amount of its service and touches no other; it
    fails where that sum overflows. -/
structure Accumulates {σ : Type} (step : σ → ServiceCost → Except ChargeError σ) (view : σ → String → Decimal) :
    Prop where
  ok : ∀ s l a, (view s l.serviceId).add l.amount = some a →
    ∃ t, step s l = .ok t ∧ ∀ id, view t id = if id = l.serviceId then a else view s id
  error : ∀ s l, (view s l.serviceId).add l.amount = none → step s l = .error (.overflow .serviceTotal)

namespace Accumulates

variable {σ : Type} {step : σ → ServiceCost → Except ChargeError σ} {view : σ → String → Decimal}

/-- What a run of such steps leaves is each service's lines added up in their order. -/
theorem run (h : Accumulates step view) {ls : List ServiceCost} {s t : σ} (ht : ls.foldlM step s = .ok t)
    (id : String) : (amountsOf id ls).foldlM Decimal.add (view s id) = some (view t id) := by
  induction ls generalizing s with
  | nil =>
    cases ht
    rfl
  | cons l ls ih =>
    rw [List.foldlM_cons] at ht
    cases ha : (view s l.serviceId).add l.amount with
    | none => rw [h.error s l ha] at ht; cases ht
    | some a =>
      obtain ⟨u, hu, hv⟩ := h.ok s l a ha
      rw [hu] at ht
      have := ih ht
      rw [hv] at this
      rw [amountsOf_cons]
      by_cases e : id = l.serviceId
      · rw [if_pos e] at this ⊢
        rw [List.foldlM_cons, e, ha]
        exact e ▸ this
      · rw [if_neg e] at this ⊢
        exact this

/-- It succeeds if and only if no running amount overflows. -/
theorem run_ok_iff (h : Accumulates step view) (ls : List ServiceCost) (s : σ) :
    (∃ t, ls.foldlM step s = .ok t) ↔
      ∀ id, ∃ d, (amountsOf id ls).foldlM Decimal.add (view s id) = some d := by
  constructor
  · rintro ⟨t, ht⟩ id
    exact ⟨_, h.run ht id⟩
  intro hall
  induction ls generalizing s with
  | nil => exact ⟨s, rfl⟩
  | cons l ls ih =>
    obtain ⟨d, hd⟩ := hall l.serviceId
    rw [amountsOf_cons, if_pos rfl, List.foldlM_cons] at hd
    obtain ⟨a, ha, -⟩ := Option.bind_eq_some_iff.mp hd
    obtain ⟨u, hu, hv⟩ := h.ok s l a ha
    rw [List.foldlM_cons, hu]
    refine ih u ?_
    intro id
    obtain ⟨d, hd⟩ := hall id
    rw [amountsOf_cons] at hd
    rw [hv]
    by_cases e : id = l.serviceId
    · rw [if_pos e, List.foldlM_cons, e, ha] at hd
      rw [if_pos e, e]
      exact ⟨d, hd⟩
    · rw [if_neg e] at hd
      rw [if_neg e]
      exact ⟨d, hd⟩

/-- Where it fails, a running amount overflows. -/
theorem run_error (h : Accumulates step view) {ls : List ServiceCost} {s : σ} {e : ChargeError}
    (he : ls.foldlM step s = .error e) : e = .overflow .serviceTotal := by
  induction ls generalizing s with
  | nil => cases he
  | cons l ls ih =>
    rw [List.foldlM_cons] at he
    cases ha : (view s l.serviceId).add l.amount with
    | none =>
      rw [h.error s l ha] at he
      cases he
      rfl
    | some a =>
      obtain ⟨u, hu, -⟩ := h.ok s l a ha
      rw [hu] at he
      exact ih he

end Accumulates

/-! ## Rebuilding -/

theorem tally_eq (t : Table ServiceTotal) (l : ServiceCost) :
    tally t l = match (amountIn t l.serviceId).add l.amount with
      | some a => .ok (t.put l.serviceId ⟨(nameIn t l.serviceId).getD l.serviceName, a⟩)
      | none => .error (.overflow .serviceTotal) := by
  unfold tally amountIn nameIn
  cases t.get? l.serviceId with
  | none => rfl
  | some x =>
    simp only [Option.map_some, Option.getD_some]
    cases x.amount.add l.amount <;> rfl

theorem accumulates_tally : Accumulates tally amountIn where
  ok t l a ha := by
    rw [tally_eq, ha]
    exact ⟨_, rfl, fun id => amountIn_put ..⟩
  error t l ha := by rw [tally_eq, ha]

theorem nameIn_tally {ls : List ServiceCost} {s t : Table ServiceTotal} (h : ls.foldlM tally s = .ok t)
    (id : String) : nameIn t id = (nameIn s id).or (firstName id ls) := by
  induction ls generalizing s with
  | nil => cases h; simp [firstName]
  | cons l ls ih =>
    rw [List.foldlM_cons, tally_eq] at h
    cases ha : (amountIn s l.serviceId).add l.amount with
    | none => rw [ha] at h; cases h
    | some a =>
      rw [ha] at h
      rw [ih h, nameIn_put, firstName_cons]
      by_cases e : id = l.serviceId
      · subst e
        cases nameIn s l.serviceId <;> simp
      · simp [e]

theorem names_of_tally {ls : List ServiceCost} {t : Table ServiceTotal} (h : ls.foldlM tally .empty = .ok t) :
    t.names = serviceIds ls := by
  refine Table.eq_of_ascending (Table.names_ascending _) (Table.names_ascending _) ?_
  intro id
  have hname : nameIn t id = firstName id ls := nameIn_tally h id
  show id ∈ t.names ↔ id ∈ serviceIds ls
  rw [mem_serviceIds, Table.mem_names_iff, ← firstName_isSome_iff, ← hname, nameIn, Option.isSome_map]

/-- The service totals of tallied lines are those of their services, one by one. -/
theorem amounts_of_tally {ls : List ServiceCost} {t : Table ServiceTotal} (h : ls.foldlM tally .empty = .ok t) :
    t.values.map (·.amount) = (serviceIds ls).map (amountIn t) := by
  rw [← names_of_tally h, Table.values, Table.names, List.map_map, List.map_map]
  refine List.map_congr_left ?_
  intro e he
  show e.2.amount = amountIn t e.1
  rw [amountIn, (t.mem_entries_iff e.1 e.2).mp he]
  rfl

/-! ## Staging and settling -/

theorem stage_eq (r : Report) (staged : Table Decimal) (l : ServiceCost) :
    r.stage staged l = match (r.staged? staged l.serviceId).add l.amount with
      | some a => .ok (staged.put l.serviceId a)
      | none => .error (.overflow .serviceTotal) := by
  unfold stage
  cases (r.staged? staged l.serviceId).add l.amount <;> rfl

theorem accumulates_stage (r : Report) : Accumulates r.stage r.staged? where
  ok t l a ha := by
    rw [stage_eq, ha]
    refine ⟨_, rfl, ?_⟩
    intro id
    unfold staged?
    rw [Table.get?_put]
    split <;> rfl
  error t l ha := by rw [stage_eq, ha]

theorem stage_get?_isSome {r : Report} {ls : List ServiceCost} {s t : Table Decimal}
    (h : ls.foldlM r.stage s = .ok t) (id : String) :
    (t.get? id).isSome = ((s.get? id).isSome || decide (id ∈ ls.map (·.serviceId))) := by
  induction ls generalizing s with
  | nil => cases h; simp
  | cons l ls ih =>
    rw [List.foldlM_cons, stage_eq] at h
    cases ha : (r.staged? s l.serviceId).add l.amount with
    | none => rw [ha] at h; cases h
    | some a =>
      rw [ha] at h
      rw [ih h, Table.get?_put]
      by_cases e : id = l.serviceId
      · simp [e]
      · simp [e]

theorem nameIn_settle (staged : Table Decimal) (ls : List ServiceCost) (t : Table ServiceTotal) (id : String) :
    nameIn (ls.foldl (settle staged) t) id = (nameIn t id).or (firstName id ls) := by
  induction ls generalizing t with
  | nil => simp [firstName]
  | cons l ls ih =>
    rw [List.foldl_cons, ih, settle, nameIn_put, firstName_cons]
    by_cases e : id = l.serviceId
    · subst e
      unfold nameIn
      cases t.get? l.serviceId <;> simp
    · simp [e]

theorem amountIn_settle (staged : Table Decimal) (ls : List ServiceCost) (t : Table ServiceTotal) (id : String) :
    amountIn (ls.foldl (settle staged) t) id =
      if id ∈ ls.map (·.serviceId) then (staged.get? id).getD .zero else amountIn t id := by
  induction ls generalizing t with
  | nil => simp
  | cons l ls ih =>
    rw [List.foldl_cons, ih, settle, amountIn_put]
    by_cases e : id = l.serviceId
    · subst e
      cases t.get? l.serviceId <;> simp
    · simp [e]

theorem staged?_empty (r : Report) (id : String) : r.staged? .empty id = amountIn r.serviceTotals id := rfl

/-- Lines are staged without overflow if and only if a rebuild from the same totals takes them. -/
theorem stage_ok_iff_tally_ok (r : Report) (ls : List ServiceCost) :
    (∃ s, ls.foldlM r.stage .empty = .ok s) ↔ ∃ t, ls.foldlM tally r.serviceTotals = .ok t := by
  rw [(accumulates_stage r).run_ok_iff, accumulates_tally.run_ok_iff]
  simp only [staged?_empty]

/-- Settling staged lines gives the totals that a rebuild gives. -/
theorem settle_eq_tally {r : Report} {ls : List ServiceCost} {staged : Table Decimal} {t : Table ServiceTotal}
    (hs : ls.foldlM r.stage .empty = .ok staged) (ht : ls.foldlM tally r.serviceTotals = .ok t) :
    ls.foldl (settle staged) r.serviceTotals = t := by
  refine eq_of_views ?_ ?_
  · intro id
    rw [nameIn_settle, nameIn_tally ht]
  intro id
  rw [amountIn_settle]
  have h1 := (accumulates_stage r).run hs id
  have h2 := accumulates_tally.run ht id
  have hrun : r.staged? staged id = amountIn t id := Option.some.inj (h1.symm.trans h2)
  have hsome := stage_get?_isSome hs id
  by_cases hid : id ∈ ls.map (·.serviceId)
  · rw [if_pos hid, ← hrun]
    have : (staged.get? id).isSome = true := by simpa [hid] using hsome
    obtain ⟨a, ha⟩ := Option.isSome_iff_exists.mp this
    simp [staged?, ha]
  · rw [if_neg hid, ← hrun]
    have : staged.get? id = none := by simpa [hid] using hsome
    rw [staged?, this]
    rfl

end Tariff.Report
