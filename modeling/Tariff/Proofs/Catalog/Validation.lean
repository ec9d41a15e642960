/-
  Tariff.Proofs.Catalog.Validation — which services have no faults.

  Each structure `WellFormed` says what data must satisfy, without a word on faults; its
  `faults_eq_nil_iff` says that nothing is wrong with well-formed data, and with no other.
-/
import Tariff.Catalog
import Tariff.Proofs.Table

namespace Tariff

/-! ## Well-formed services -/

structure TierRange.WellFormed (r : TierRange) : Prop where
  min : .zero ≤ r.min
  max : r.min ≤ r.max
  multiplier : .zero ≤ r.multiplier

structure TierTable.WellFormed (t : TierTable) : Prop where
  ranges_ne_nil : t.ranges ≠ []
  ranges : ∀ r ∈ t.ranges, r.WellFormed

structure Calculation.WellFormed (c : Calculation) : Prop where
  value : .zero ≤ c.value
  /-- A kind that looks up a tier has a table. -/
  tiers : c.kind.requiresTiers = true → c.tiers ≠ none
  /-- A table is in order whether or not the kind looks it up. -/
  table : ∀ t ∈ c.tiers, t.WellFormed
  skus : c.kind = .productSpecific → ∃ sku ∈ c.skus, Sku.canonical sku ≠ ""

structure Service.WellFormed (s : Service) : Prop where
  id : Text.trim s.id ≠ ""
  serviceId : Text.trim s.serviceId ≠ ""
  unitPrice : .zero ≤ s.unitPrice
  calculations : ∀ c ∈ s.calculations, c.WellFormed
  /-- Every condition, however deep, has a value. -/
  conditions : ∀ g ∈ s.ruleGroups, ∀ c ∈ g.leaves, c.values ≠ []

/-! ## No faults -/

theorem Decimal.not_lt_iff {a b : Decimal} : ¬a < b ↔ b ≤ a := Rat.not_lt

theorem Decimal.le_trans {a b c : Decimal} (hab : a ≤ b) (hbc : b ≤ c) : a ≤ c := Rat.le_trans hab hbc

theorem negativeFaults_eq_nil_iff {p : Place} {name : String} {d : Decimal} :
    negativeFaults p name d = [] ↔ .zero ≤ d := by
  rw [← Decimal.not_lt_iff]
  simp [negativeFaults]

theorem blankFaults_eq_nil_iff {p : Place} {name s : String} : blankFaults p name s = [] ↔ Text.trim s ≠ "" := by
  simp [blankFaults]

/-- Lists of faults, item by item. -/
theorem flatMap_zipIdx_eq_nil_iff {α : Type} {P : α → Prop} (xs : List α) (faults : α → Nat → List Fault)
    (h : ∀ x i, faults x i = [] ↔ P x) : (xs.zipIdx.flatMap fun (x, i) => faults x i) = [] ↔ ∀ x ∈ xs, P x := by
  rw [List.flatMap_eq_nil_iff]
  constructor
  · intro hnil x hx
    obtain ⟨i, hi⟩ := List.mem_iff_getElem?.mp hx
    exact (h x i).mp (hnil (x, i) (List.mk_mem_zipIdx_iff_getElem?.mpr hi))
  · rintro hall ⟨x, i⟩ hxi
    exact (h x i).mpr (hall x (List.fst_mem_of_mem_zipIdx hxi))

theorem TierRange.faults_eq_nil_iff {p : Place} {r : TierRange} : r.faults p = [] ↔ r.WellFormed := by
  have hinverted : (if r.max < r.min then [Fault.mk p (.invertedRange r.min r.max)] else []) = [] ↔ r.min ≤ r.max := by
    rw [← Decimal.not_lt_iff]
    simp
  simp only [faults, List.append_eq_nil_iff, negativeFaults_eq_nil_iff, hinverted]
  constructor
  · rintro ⟨⟨⟨hmin, -⟩, hmultiplier⟩, hmax⟩
    exact ⟨hmin, hmax, hmultiplier⟩
  · intro h
    exact ⟨⟨⟨h.min, Decimal.le_trans h.min h.max⟩, h.multiplier⟩, h.max⟩

theorem TierTable.faults_eq_nil_iff {p : Place} {t : TierTable} : t.faults p = [] ↔ t.WellFormed := by
  have hranges := flatMap_zipIdx_eq_nil_iff t.ranges (fun r i => r.faults ((p.field "ranges").item i))
    fun _ _ => TierRange.faults_eq_nil_iff
  rw [faults, List.append_eq_nil_iff, hranges]
  constructor
  · rintro ⟨hne, hall⟩
    exact ⟨by simpa using hne, hall⟩
  · intro h
    exact ⟨by simpa using h.ranges_ne_nil, h.ranges⟩

theorem Sku.setOf_isEmpty_iff {raws : List String} :
    (setOf raws).isEmpty = true ↔ ∀ sku ∈ raws, canonical sku = "" := by
  rw [setOf, Table.isEmpty_ofList]
  simp

theorem Calculation.faults_eq_nil_iff {p : Place} {c : Calculation} : c.faults p = [] ↔ c.WellFormed := by
  have hskus : (if c.kind = .productSpecific && (Sku.setOf c.skus).isEmpty then
        [Fault.mk p (.emptyAllowList c.kind)] else []) = [] ↔
      (c.kind = .productSpecific → ∃ sku ∈ c.skus, Sku.canonical sku ≠ "") := by
    simp [Sku.setOf_isEmpty_iff]
  have hparts : c.faults p = [] ↔ (.zero ≤ c.value ∧ (c.kind.requiresTiers = true → c.tiers ≠ none) ∧
      ∀ t ∈ c.tiers, t.WellFormed) ∧ (c.kind = .productSpecific → ∃ sku ∈ c.skus, Sku.canonical sku ≠ "") := by
    rw [faults, List.append_eq_nil_iff, List.append_eq_nil_iff, negativeFaults_eq_nil_iff, hskus]
    -- a table has its own faults, a missing one is a fault of the calculation
    cases c.tiers with
    | none => simp
    | some t => simp [TierTable.faults_eq_nil_iff]
  rw [hparts]
  constructor
  · rintro ⟨⟨hvalue, htiers, htable⟩, hskus⟩
    exact ⟨hvalue, htiers, htable, hskus⟩
  · intro h
    exact ⟨⟨h.value, h.tiers, h.table⟩, h.skus⟩

mutual

theorem Rule.faults_eq_nil_iff : ∀ (p : Place) (r : Rule), r.faults p = [] ↔ ∀ c ∈ r.leaves, c.values ≠ []
  | p, .condition c => by simp [Rule.faults, Rule.leaves]
  | p, .group q rules => by
    rw [Rule.faults, Rule.leaves]
    exact Rule.memberFaults_eq_nil_iff (p.field "conditions") 0 rules

theorem Rule.memberFaults_eq_nil_iff : ∀ (p : Place) (i : Nat) (rules : List Rule),
    Rule.memberFaults p i rules = [] ↔ ∀ c ∈ Rule.leavesOf rules, c.values ≠ []
  | p, i, [] => by simp [Rule.memberFaults, Rule.leavesOf]
  | p, i, r :: rest => by
    rw [Rule.memberFaults, Rule.leavesOf, List.append_eq_nil_iff, Rule.faults_eq_nil_iff (p.item i) r,
      Rule.memberFaults_eq_nil_iff p (i + 1) rest, List.forall_mem_append]

end

theorem RuleGroup.faults_eq_nil_iff {p : Place} {g : RuleGroup} :
    g.faults p = [] ↔ ∀ c ∈ g.leaves, c.values ≠ [] := by
  rw [faults, Rule.faults_eq_nil_iff, toRule, Rule.leaves]
  rfl

/-- Nothing is wrong with a service exactly if it is well-formed. -/
theorem Service.faults_eq_nil_iff {p : Place} {s : Service} : s.faults p = [] ↔ s.WellFormed := by
  have hcalculations := flatMap_zipIdx_eq_nil_iff s.calculations
    (fun c i => c.faults ((p.field "calculations").item i)) fun _ _ => Calculation.faults_eq_nil_iff
  have hgroups := flatMap_zipIdx_eq_nil_iff s.ruleGroups
    (fun g i => g.faults ((p.field "rule_groups").item i)) fun _ _ => RuleGroup.faults_eq_nil_iff
  rw [faults]
  simp only [List.append_eq_nil_iff, blankFaults_eq_nil_iff, negativeFaults_eq_nil_iff]
  rw [hcalculations, hgroups]
  constructor
  · rintro ⟨⟨⟨⟨hid, hserviceId⟩, hprice⟩, hcalculations⟩, hgroups⟩
    exact ⟨hid, hserviceId, hprice, hcalculations, hgroups⟩
  · intro h
    exact ⟨⟨⟨⟨h.id, h.serviceId⟩, h.unitPrice⟩, h.calculations⟩, h.conditions⟩

end Tariff
