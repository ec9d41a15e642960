/-
  Tariff.Proofs.Rule.Comparison — what the operators of a condition ask for.

  A list of values asks for any of them. Three operators are the negation of another one:
  on data that the pair can compare (`Comparable`) exactly one of the two holds, and on all
  other data neither does, so no rule holds for want of data.
  - `holds_anyOf`: lists of values.
  - `holds_negation` / `not_holds_of_not_comparable`: an operator and its negation.
  - `values_and_negations`
-/
import Mathlib.Data.List.Basic
import Tariff.Proofs.Order.Value
import Tariff.Rule.Matching

namespace Tariff

namespace Condition

variable {o : Order} {f : Field} {operator p n : Operator} {values : List String}

theorem holds_of_ne_nil (h : values ≠ []) : holds ⟨f, operator, values⟩ o = valueMatches (o.value f) operator values := by
  rw [holds, List.isEmpty_eq_false_iff.mpr h]
  rfl

theorem holds_nil : holds ⟨f, operator, []⟩ o = false := rfl

/-! ## Lists of values -/

def anyOf : List Operator := [.isIn, .contains, .startsWith, .endsWith]

/-- Any operator but `between` compares a number with the first value. -/
theorem numberMatches_eq (ho : operator ≠ .between) (x : Binary64) (values : List String) :
    numberMatches x operator values = (values.head? >>= numberOfText).any (compareWith operator x) := by
  unfold numberMatches
  split
  case h_1 => exact absurd rfl ho
  case h_2 => cases values.head? >>= numberOfText <;> rfl

theorem numberMatches_cons (ho : operator ≠ .between) (x : Binary64) (v : String) (more : List String) :
    numberMatches x operator (v :: more) = (numberOfText v).any (compareWith operator x) := by
  rw [numberMatches_eq ho, List.head?_cons, Option.bind_eq_bind, Option.bind_some]

/-- No number is compared by an operator for texts. -/
theorem numberMatches_eq_false (ho : operator ≠ .between) {x : Binary64} (h : ∀ y, compareWith operator x y = false)
    (values : List String) : numberMatches x operator values = false := by
  rw [numberMatches_eq ho]
  cases values.head? >>= numberOfText with
  | none => rfl
  | some y => exact h y

theorem numberMatches_anyOf (h : operator ∈ anyOf) (x : Binary64) (values : List String) :
    numberMatches x operator values = false := by
  simp only [anyOf, List.mem_cons, List.not_mem_nil, or_false] at h
  rcases h with rfl | rfl | rfl | rfl <;> exact numberMatches_eq_false (by decide) (fun _ => rfl) values

theorem textMatches_anyOf (h : operator ∈ anyOf) (t : String) (values : List String) :
    textMatches t operator values = values.any fun v => textMatches t operator [v] := by
  simp only [anyOf, List.mem_cons, List.not_mem_nil, or_false] at h
  rcases h with rfl | rfl | rfl | rfl
  · rw [Bool.eq_iff_iff]
    simp [textMatches]
  · simp [textMatches, containsAny]
  · simp [textMatches]
  · simp [textMatches]

theorem skusMatch_anyOf (h : operator ∈ anyOf) (l : Sku.Ledger) (values : List String) :
    skusMatch l operator values = values.any fun v => skusMatch l operator [v] := by
  simp only [anyOf, List.mem_cons, List.not_mem_nil, or_false] at h
  rcases h with rfl | rfl | rfl | rfl <;> simp [skusMatch]

theorem holds_anyOf (h : operator ∈ anyOf) :
    holds ⟨f, operator, values⟩ o = true ↔ ∃ v ∈ values, holds ⟨f, operator, [v]⟩ o = true := by
  by_cases hv : values = []
  · subst hv
    simp [holds_nil]
  have hany : valueMatches (o.value f) operator values = values.any fun v => valueMatches (o.value f) operator [v] := by
    cases o.value f with
    | number x => simp [valueMatches, numberMatches_anyOf h]
    | text t => exact textMatches_anyOf h t values
    | skus l => exact skusMatch_anyOf h l values
    | unparseable | missing => simp [valueMatches]
  rw [holds_of_ne_nil hv, hany, List.any_eq_true]
  simp only [holds_of_ne_nil (List.cons_ne_nil _ _)]

/-! ## Negations -/

inductive Negation : Operator → Operator → Prop
  | eq : Negation .eq .ne
  | isIn : Negation .isIn .notIn
  | contains : Negation .contains .notContains

/-- The order has data that the operator, or its negation, compares with the values. -/
inductive Comparable (o : Order) (values : List String) : Field → Operator → Prop
  | number {f : NumericField} {v : Json.Value} {x y : Binary64} (hv : o.number? f = some v)
      (hx : numberOfJson v = some x) (hy : values.head? >>= numberOfText = some y) :
      Comparable o values (.numeric f) .eq
  | text {f : TextField} {t : String} (h : o.text f = some t) (operator : Operator) :
      Comparable o values (.text f) operator
  | skus {v : Json.Value} {operator : Operator} (h : o.skus = some v) (hv : v ≠ .null) (ho : operator ≠ .eq) :
      Comparable o values .skus operator

theorem numberMatches_negation (h : Negation p n) {x : Binary64} {values : List String}
    (hp : p ≠ .eq ∨ values.head? >>= numberOfText = none) :
    numberMatches x p values = false ∧ numberMatches x n values = false := by
  cases h with
  | eq =>
    have hnone := hp.resolve_left (by simp)
    rw [numberMatches_eq (by decide), numberMatches_eq (by decide), hnone]
    exact ⟨rfl, rfl⟩
  | isIn | contains =>
    exact ⟨numberMatches_eq_false (by decide) (fun _ => rfl) values,
      numberMatches_eq_false (by decide) (fun _ => rfl) values⟩

theorem numberMatches_ne {x y : Binary64} {values : List String} (hy : values.head? >>= numberOfText = some y) :
    numberMatches x .ne values = !numberMatches x .eq values := by
  rw [numberMatches_eq (by decide), numberMatches_eq (by decide), hy]
  rfl

theorem textMatches_negation (h : Negation p n) (t : String) (values : List String) :
    textMatches t n values = !textMatches t p values := by
  cases h <;> rfl

theorem skusMatch_negation (h : Negation p n) (hp : p ≠ .eq) (l : Sku.Ledger) (values : List String) :
    skusMatch l n values = !skusMatch l p values := by
  cases h with
  | eq => exact absurd rfl hp
  | isIn | contains => rfl

theorem skusMatch_eq (h : Negation .eq n) (l : Sku.Ledger) (values : List String) :
    skusMatch l .eq values = false ∧ skusMatch l n values = false := by
  cases h
  exact ⟨rfl, rfl⟩

/-- On data that can be compared, one of an operator and its negation holds. -/
theorem holds_negation (h : Negation p n) (hv : values ≠ []) (hc : Comparable o values f p) :
    holds ⟨f, n, values⟩ o = !holds ⟨f, p, values⟩ o := by
  rw [holds_of_ne_nil hv, holds_of_ne_nil hv]
  cases hc with
  | number hdata hx hy =>
    rw [Order.value_number hdata hx]
    cases h
    exact numberMatches_ne hy
  | text ht =>
    rw [Order.value_text ht]
    exact textMatches_negation h _ values
  | skus hs hne ho =>
    rw [Order.value_skus hs hne]
    exact skusMatch_negation h ho _ values

/-- On other data neither holds. -/
theorem not_holds_of_not_comparable (h : Negation p n) (hc : ¬Comparable o values f p) :
    holds ⟨f, p, values⟩ o = false ∧ holds ⟨f, n, values⟩ o = false := by
  by_cases hv : values = []
  · subst hv
    exact ⟨rfl, rfl⟩
  rw [holds_of_ne_nil hv, holds_of_ne_nil hv]
  have hvalue := o.valueOf f
  generalize o.value f = value at hvalue
  cases hvalue with
  | number hdata hx =>
    refine numberMatches_negation h (or_iff_not_imp_left.mpr fun hp => ?_)
    rw [not_not] at hp
    subst hp
    exact Option.eq_none_iff_forall_ne_some.mpr fun y hy => hc (.number hdata hx hy)
  | text ht => exact absurd (.text ht p) hc
  | skus hs hne =>
    by_cases hp : p = .eq
    · subst hp
      exact skusMatch_eq h _ values
    · exact absurd (.skus hs hne hp) hc
  | unparseable | noNumber | noText | noSkus => exact ⟨rfl, rfl⟩

/-- A list of values asks for any of them, and an empty one for nothing. Of an operator and its negation exactly one
    holds where the data can be compared, and none where it cannot. -/
theorem values_and_negations (o : Order) (f : Field) (values : List String) :
    (∀ operator ∈ anyOf,
      (holds ⟨f, operator, values⟩ o = true ↔ ∃ v ∈ values, holds ⟨f, operator, [v]⟩ o = true)) ∧
      (values ≠ [] → ∀ p n, Negation p n →
        (Comparable o values f p → holds ⟨f, n, values⟩ o = !holds ⟨f, p, values⟩ o) ∧
        (¬Comparable o values f p → holds ⟨f, p, values⟩ o = false ∧ holds ⟨f, n, values⟩ o = false)) ∧
      ∀ operator, holds ⟨f, operator, []⟩ o = false := by
  refine ⟨?_, ?_, ?_⟩
  · intro operator ho
    exact holds_anyOf ho
  · intro hv p n h
    exact ⟨holds_negation h hv, not_holds_of_not_comparable h⟩
  · intro operator
    exact holds_nil

namespace Small

def light : Order :=
  ((Order.new "o-1" "c-1" ⟨2024, 9, 2, by decide⟩).withText (.text .carrier) "DHL").withNumber (.numeric .weightLb)
    (.string " 3 ")

end Small

/-- The carrier is one of two, the weight is three pounds and not another number, and of SKUs that are not there the
    order has neither one nor none. -/
theorem values_and_negations_light :
    (∃ v ∈ ["UPS", "DHL"], holds ⟨.text .carrier, .isIn, [v]⟩ Small.light = true) ∧
      holds ⟨.numeric .weightLb, .eq, ["3.0", "4"]⟩ Small.light = true ∧
      holds ⟨.numeric .weightLb, .ne, ["3.0", "4"]⟩ Small.light = false ∧
      holds ⟨.skus, .contains, ["A"]⟩ Small.light = false ∧ holds ⟨.skus, .notContains, ["A"]⟩ Small.light = false := by
  have hlisted := ((values_and_negations Small.light (.text .carrier) ["UPS", "DHL"]).1 .isIn (by decide)).mp
    (by decide +kernel)
  obtain ⟨x, hx⟩ := Option.isSome_iff_exists.mp
    (show (numberOfJson (.string " 3 ")).isSome = true by decide +kernel)
  obtain ⟨y, hy⟩ := Option.isSome_iff_exists.mp
    (show (["3.0", "4"].head? >>= numberOfText).isSome = true by decide +kernel)
  have heq : holds ⟨.numeric .weightLb, .eq, ["3.0", "4"]⟩ Small.light = true := by decide +kernel
  have hne := ((values_and_negations Small.light (.numeric .weightLb) ["3.0", "4"]).2.1 (by simp) .eq .ne .eq).1
    (.number rfl hx hy)
  rw [heq] at hne
  have hskus := ((values_and_negations Small.light .skus ["A"]).2.1 (by simp) .contains .notContains .contains).2
    (fun h => by cases h with | skus hs _ _ => cases hs)
  exact ⟨hlisted, heq, hne, hskus⟩

end Condition

end Tariff
