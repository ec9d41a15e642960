/-
  Tariff.Proofs.Rule.Interval — `between` as a closed interval.

  The bounds are two values, or the sides of the first comma of a single one; either way they
  are read as `ge` and `le` read a value. So `between` holds where both of these do (`Within`).
  - `between_joined` / `between_single`: a single value, with and without a comma.
  - `between_iff_within` / `ge_and_le_iff_within`
  - `between_closed`
-/
import Mathlib.Data.List.TakeWhile
import Tariff.Proofs.Rule.Comparison

namespace Tariff

/-! ## The first comma -/

theorem Text.splitFirst_append {c : Char} {front : List Char} (h : c ∉ front) (back : List Char) :
    splitFirst c (front ++ c :: back) = some (front, back) := by
  have hfront : ∀ d ∈ front, (d != c) = true := by
    intro d hd
    exact bne_iff_ne.mpr fun heq => h (heq ▸ hd)
  rw [splitFirst, List.dropWhile_append_of_pos hfront, List.takeWhile_append_of_pos hfront]
  simp

theorem Text.splitFirst_of_not_mem {c : Char} {cs : List Char} (h : c ∉ cs) : splitFirst c cs = none := by
  have hall : ∀ d ∈ cs, (d != c) = true := by
    intro d hd
    exact bne_iff_ne.mpr fun heq => h (heq ▸ hd)
  rw [splitFirst, List.dropWhile_eq_nil_iff.mpr hall]

/-! ## Intervals -/

namespace Condition

variable {o : Order} {f : Field} {low high : String}

/-- The field is a number from the one that `low` gives to the one that `high` gives, both included. -/
def Within (o : Order) (f : Field) (low high : String) : Prop :=
  ∃ a x y, o.value f = .number a ∧ numberOfText low = some x ∧ numberOfText high = some y ∧ x ≤ a ∧ a ≤ y

theorem bounds_joined (h : ',' ∉ low.toList) (high : String) (more : List String) :
    bounds [low ++ "," ++ high] = bounds (low :: high :: more) := by
  have hchars : (low ++ "," ++ high).toList = low.toList ++ ',' :: high.toList := by simp
  rw [bounds, hchars, Text.splitFirst_append h]
  simp [bounds]

theorem bounds_single (h : ',' ∉ low.toList) : bounds [low] = none := by
  rw [bounds, Text.splitFirst_of_not_mem h]
  rfl

theorem between_joined (h : ',' ∉ low.toList) (high : String) (more : List String) :
    holds ⟨f, .between, [low ++ "," ++ high]⟩ o = holds ⟨f, .between, low :: high :: more⟩ o := by
  rw [holds_of_ne_nil (List.cons_ne_nil _ _), holds_of_ne_nil (List.cons_ne_nil _ _)]
  cases o.value f with
  | number a => rw [valueMatches, valueMatches, numberMatches, numberMatches, bounds_joined h]
  | text t | skus l | unparseable | missing => rfl

theorem between_single (h : ',' ∉ low.toList) : holds ⟨f, .between, [low]⟩ o = false := by
  rw [holds_of_ne_nil (List.cons_ne_nil _ _)]
  cases o.value f with
  | number a => rw [valueMatches, numberMatches, bounds_single h]
  | text t | skus l | unparseable | missing => rfl

theorem between_iff_within (more : List String) :
    holds ⟨f, .between, low :: high :: more⟩ o = true ↔ Within o f low high := by
  rw [holds_of_ne_nil (List.cons_ne_nil _ _), Within]
  cases o.value f with
  | number a =>
    rw [valueMatches, numberMatches, bounds]
    cases numberOfText low <;> cases numberOfText high <;> simp
  | text t | skus l | unparseable | missing => simp [valueMatches, textMatches, skusMatch]

/-- Each bound compares on its own. -/
theorem ge_and_le_iff_within (more more' : List String) :
    holds ⟨f, .ge, low :: more⟩ o = true ∧ holds ⟨f, .le, high :: more'⟩ o = true ↔ Within o f low high := by
  rw [holds_of_ne_nil (List.cons_ne_nil _ _), holds_of_ne_nil (List.cons_ne_nil _ _), Within]
  cases o.value f with
  | number a =>
    rw [valueMatches, valueMatches, numberMatches_cons (by decide), numberMatches_cons (by decide)]
    cases numberOfText low <;> cases numberOfText high <;> simp [compareWith]
  | text t | skus l | unparseable | missing => simp [valueMatches, textMatches, skusMatch]

/-- `between` is the closed interval of its two bounds, which are the first two values or the sides of the first comma
    of a single one. It is `ge` the one and `le` the other, and holds of nothing if one of the three is no number. -/
theorem between_closed (o : Order) (f : Field) (low high : String) (h : ',' ∉ low.toList) :
    (∀ more, holds ⟨f, .between, [low ++ "," ++ high]⟩ o = holds ⟨f, .between, low :: high :: more⟩ o) ∧
      (holds ⟨f, .between, [low ++ "," ++ high]⟩ o = true ↔
        holds ⟨f, .ge, [low]⟩ o = true ∧ holds ⟨f, .le, [high]⟩ o = true) ∧
      (holds ⟨f, .between, [low ++ "," ++ high]⟩ o = true ↔ Within o f low high) ∧
      (numberOfText low = none ∨ numberOfText high = none ∨ (∀ a, o.value f ≠ .number a) →
        holds ⟨f, .between, [low ++ "," ++ high]⟩ o = false) ∧
      holds ⟨f, .between, [low]⟩ o = false := by
  have hwithin : holds ⟨f, .between, [low ++ "," ++ high]⟩ o = true ↔ Within o f low high := by
    rw [between_joined h high [], between_iff_within]
  refine ⟨between_joined h high, hwithin.trans (ge_and_le_iff_within [] []).symm, hwithin, ?_, between_single h⟩
  intro hnone
  refine Bool.eq_false_iff.mpr fun hholds => ?_
  obtain ⟨a, x, y, ha, hx, hy, -⟩ := hwithin.mp hholds
  rcases hnone with hlow | hhigh | hvalue
  · simp [hlow] at hx
  · simp [hhigh] at hy
  · exact hvalue a ha

/-- The bounds are read without the blanks around them, and both count; what is behind a second comma is part of the
    upper bound, which then is no number. -/
theorem between_closed_light :
    holds ⟨.numeric .weightLb, .between, ["2.5" ++ "," ++ " 3 "]⟩ Small.light = true ∧
      holds ⟨.numeric .weightLb, .between, ["2.5", " 3 ", "1"]⟩ Small.light = true ∧
      holds ⟨.numeric .weightLb, .between, ["2.5" ++ "," ++ "3,9"]⟩ Small.light = false ∧
      holds ⟨.numeric .weightLb, .between, ["2.5"]⟩ Small.light = false := by
  have hlow : ',' ∉ "2.5".toList := by decide
  obtain ⟨hjoined, hbounds, -, -, hsingle⟩ := between_closed Small.light (.numeric .weightLb) "2.5" " 3 " hlow
  obtain ⟨-, -, -, hnone, -⟩ := between_closed Small.light (.numeric .weightLb) "2.5" "3,9" hlow
  have hholds := hbounds.mpr ⟨by decide +kernel, by decide +kernel⟩
  exact ⟨hholds, (hjoined ["1"]).symm.trans hholds, hnone (.inr (.inl (by decide +kernel))), hsingle⟩

end Condition

end Tariff
