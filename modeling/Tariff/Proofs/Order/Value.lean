/-
  Tariff.Proofs.Order.Value — what a field of an order can be to a condition.

  `Order.ValueOf` has one case for each kind of data that can be behind a value, and
  `Order.valueOf` says that there are no others.
-/
import Tariff.Order

namespace Tariff

/-- The value of a field, by the data that is behind it. -/
inductive Order.ValueOf (o : Order) : Field → FieldValue → Prop
  | number {f : NumericField} {v : Json.Value} {x : Binary64} (hv : o.number? f = some v)
      (hx : numberOfJson v = some x) : ValueOf o (.numeric f) (.number x)
  | unparseable {f : NumericField} {v : Json.Value} (hv : o.number? f = some v) (hx : numberOfJson v = none) :
      ValueOf o (.numeric f) .unparseable
  | noNumber {f : NumericField} (h : o.number? f = none) : ValueOf o (.numeric f) .missing
  | text {f : TextField} {t : String} (h : o.text f = some t) : ValueOf o (.text f) (.text t)
  | noText {f : TextField} (h : o.text f = none) : ValueOf o (.text f) .missing
  | skus {v : Json.Value} (h : o.skus = some v) (hv : v ≠ .null) : ValueOf o .skus (.skus (Sku.Ledger.ofJson v))
  | noSkus (h : ∀ v, o.skus = some v → v = .null) : ValueOf o .skus .missing

namespace Order

theorem value_numeric {o : Order} {f : NumericField} {v : Json.Value} (h : o.number? f = some v) :
    o.value (.numeric f) = (numberOfJson v).elim .unparseable .number := by
  simp only [value, h]

theorem value_number {o : Order} {f : NumericField} {v : Json.Value} {x : Binary64} (hv : o.number? f = some v)
    (hx : numberOfJson v = some x) : o.value (.numeric f) = .number x := by
  rw [value_numeric hv, hx, Option.elim_some]

theorem value_text {o : Order} {f : TextField} {t : String} (h : o.text f = some t) : o.value (.text f) = .text t := by
  rw [value, h, Option.elim_some]

theorem value_skus {o : Order} {v : Json.Value} (h : o.skus = some v) (hv : v ≠ .null) :
    o.value .skus = .skus (Sku.Ledger.ofJson v) := by
  rw [value, h]
  cases v with
  | null => exact absurd rfl hv
  | _ => rfl

theorem valueOf (o : Order) (f : Field) : o.ValueOf f (o.value f) := by
  cases f with
  | numeric f =>
    cases hv : o.number? f with
    | none =>
      rw [value, hv]
      exact .noNumber hv
    | some v =>
      cases hx : numberOfJson v with
      | none =>
        rw [value_numeric hv, hx]
        exact .unparseable hv hx
      | some x =>
        rw [value_number hv hx]
        exact .number hv hx
  | text f =>
    cases ht : o.text f with
    | none =>
      rw [value, ht]
      exact .noText ht
    | some t =>
      rw [value_text ht]
      exact .text ht
  | skus =>
    by_cases hs : ∃ v, o.skus = some v ∧ v ≠ .null
    · obtain ⟨v, hv, hne⟩ := hs
      rw [value_skus hv hne]
      exact .skus hv hne
    · have hnull : ∀ v, o.skus = some v → v = .null := by
        intro v hv
        exact Classical.not_not.mp fun hne => hs ⟨v, hv, hne⟩
      have hmissing : o.value .skus = .missing := by
        cases hv : o.skus with
        | none => rw [value, hv]
        | some v => rw [value, hv, hnull v hv]
      rw [hmissing]
      exact .noSkus hnull

end Order

end Tariff
