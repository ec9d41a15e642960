/-
  Tariff.Proofs.Rule.Matching — rules on orders that lack data.

  A condition on a field without data does not hold, whatever its operator, and no group
  negates its members. So data that is taken from an order takes rules away and adds none.
  - `Rule.holds_of_leaves`: a rule follows its conditions, and looks at no others.
  - `Service.appliesTo_without`: a service that applies without the data applies with it.
-/
import Tariff.Rule.Matching

namespace Tariff

/-! ## Orders without data -/

/-- The order without the data of the fields: a text is gone, a number or the SKU payload is
    gone too, or null where `null` says so. -/
def Order.without (o : Order) (fields : List Field) (null : Field → Bool) : Order :=
  let blank (f : Field) : Option Json.Value := if null f then some .null else none
  { o with
    text := fun f => if .text f ∈ fields then none else o.text f
    number := fun f => if .numeric f ∈ fields then blank (.numeric f) else o.number f
    skus := if .skus ∈ fields then blank .skus else o.skus }

namespace Order

variable (o : Order) {fields : List Field} (null : Field → Bool) {f : Field}

theorem value_without_of_mem (h : f ∈ fields) : (o.without fields null).value f = .missing := by
  cases f with
  | numeric f =>
    have hnumber : (o.without fields null).number? f = none := by
      cases hn : null (.numeric f) <;> simp [without, number?, h, hn, Json.Value.isNull]
    rw [value, hnumber]
  | text f => simp [without, value, h]
  | skus => cases hn : null .skus <;> simp [without, value, h, hn]

theorem value_without_of_not_mem (h : f ∉ fields) : (o.without fields null).value f = o.value f := by
  cases f <;> simp [without, value, number?, h]

end Order

/-! ## Conditions -/

namespace Condition

variable {c : Condition} {o o' : Order}

theorem not_holds_of_missing (h : o.value c.field = .missing) : c.holds o = false := by
  rw [holds, h, valueMatches, Bool.and_false]

/-- A condition looks at its own field only. -/
theorem holds_congr (h : o'.value c.field = o.value c.field) : c.holds o' = c.holds o := by
  rw [holds, holds, h]

theorem holds_of_holds_without {fields : List Field} {null : Field → Bool}
    (h : c.holds (o.without fields null) = true) : c.holds o = true := by
  by_cases hf : c.field ∈ fields
  · rw [not_holds_of_missing (o.value_without_of_mem null hf)] at h
    cases h
  · rwa [holds_congr (o.value_without_of_not_mem null hf)] at h

end Condition

/-! ## Rules -/

namespace Rule

variable {o o' : Order}

mutual

/-- A rule that holds still holds when no condition in it stops holding. -/
theorem holds_of_leaves : ∀ r : Rule, (∀ c ∈ r.leaves, c.holds o' = true → c.holds o = true) →
    r.holds o' = true → r.holds o = true
  | .condition c, hc, h => by
    rw [Rule.holds] at h ⊢
    exact hc c (by simp [leaves]) h
  | .group .all rules, hc, h => by
    rw [Rule.holds] at h ⊢
    exact allHold_of_leaves rules (by rwa [leaves] at hc) h
  | .group .any rules, hc, h => by
    rw [Rule.holds] at h ⊢
    exact anyHolds_of_leaves rules (by rwa [leaves] at hc) h

theorem allHold_of_leaves : ∀ rules : List Rule, (∀ c ∈ leavesOf rules, c.holds o' = true → c.holds o = true) →
    allHold o' rules = true → allHold o rules = true
  | [], _, _ => by rw [allHold]
  | r :: rest, hc, h => by
    rw [leavesOf, List.forall_mem_append] at hc
    rw [allHold, Bool.and_eq_true] at h ⊢
    exact ⟨holds_of_leaves r hc.1 h.1, allHold_of_leaves rest hc.2 h.2⟩

theorem anyHolds_of_leaves : ∀ rules : List Rule, (∀ c ∈ leavesOf rules, c.holds o' = true → c.holds o = true) →
    anyHolds o' rules = true → anyHolds o rules = true
  | [], _, h => by
    rw [anyHolds] at h
    cases h
  | r :: rest, hc, h => by
    rw [leavesOf, List.forall_mem_append] at hc
    rw [anyHolds, Bool.or_eq_true] at h ⊢
    exact h.imp (holds_of_leaves r hc.1) (anyHolds_of_leaves rest hc.2)

end

end Rule

/-! ## Services -/

namespace Service

variable {s : Service} {o o' : Order}

theorem appliesTo_of_leaves (hc : ∀ g ∈ s.ruleGroups, ∀ c ∈ g.leaves, c.holds o' = true → c.holds o = true)
    (h : s.appliesTo o' = true) : s.appliesTo o = true := by
  rw [appliesTo, List.all_eq_true] at h ⊢
  intro g hg
  refine Rule.holds_of_leaves g.toRule ?_ (h g hg)
  rw [RuleGroup.toRule, Rule.leaves]
  exact hc g hg

/-- A service that applies to an order without some of its data applies to the order. It makes no difference at all to
    a service whose conditions name none of the fields. -/
theorem appliesTo_without (o : Order) (s : Service) (fields : List Field) (null : Field → Bool) :
    (s.appliesTo (o.without fields null) = true → s.appliesTo o = true) ∧
      ((∀ g ∈ s.ruleGroups, ∀ c ∈ g.leaves, c.field ∉ fields) →
        s.appliesTo (o.without fields null) = s.appliesTo o) := by
  constructor
  · exact appliesTo_of_leaves fun g _ c _ => Condition.holds_of_holds_without
  · intro hfields
    have hsame : ∀ g ∈ s.ruleGroups, ∀ c ∈ g.leaves, c.holds (o.without fields null) = c.holds o :=
      fun g hg c hc => Condition.holds_congr (o.value_without_of_not_mem null (hfields g hg c hc))
    rw [Bool.eq_iff_iff]
    constructor
    · exact appliesTo_of_leaves fun g hg c hc h => (hsame g hg c hc).symm.trans h
    · exact appliesTo_of_leaves fun g hg c hc h => (hsame g hg c hc).trans h

end Service

namespace Small

/-- Parcels that are heavy, or that go anywhere but to one country by any carrier but one. -/
def abroad : Service where
  id := "cs-1"
  customerId := "c-1"
  serviceId := "s-1"
  serviceName := "Abroad"
  unitPrice := .zero
  active := true
  ruleGroups := [⟨.any, [.condition ⟨.numeric .weightLb, .ge, ["50"]⟩,
    .group .all [.condition ⟨.text .shipToCountry, .ne, ["US"]⟩, .condition ⟨.text .carrier, .notIn, ["UPS"]⟩]]⟩]
  calculations := []

def parcel : Order :=
  ((((Order.new "o-1" "c-1" ⟨2024, 1, 8, by decide⟩).withText (.text .shipToCountry) "CA").withText
    (.text .carrier) "DHL").withText (.text .notes) "fragile").withNumber (.numeric .weightLb) (.string "3")

end Small

/-- The service applies whether or not the weight, the notes and the payload are there. Without its carrier the parcel
    is no longer one that some other carrier takes. -/
theorem Service.appliesTo_without_small :
    Small.abroad.appliesTo (Small.parcel.without [.numeric .weightLb] fun _ => true) = true ∧
      Small.abroad.appliesTo Small.parcel = true ∧
      (∀ g ∈ Small.abroad.ruleGroups, ∀ c ∈ g.leaves, c.field ∉ [.text .notes, .skus]) ∧
      Small.abroad.appliesTo (Small.parcel.without [.text .notes, .skus] fun _ => true) = true ∧
      Small.abroad.appliesTo (Small.parcel.without [.text .carrier] fun _ => false) = false := by
  have hweight : Small.abroad.appliesTo (Small.parcel.without [.numeric .weightLb] fun _ => true) = true := by
    decide +kernel
  have hnamed : ∀ g ∈ Small.abroad.ruleGroups, ∀ c ∈ g.leaves, c.field ∉ [.text .notes, .skus] := by
    decide +kernel
  have happlies := (appliesTo_without Small.parcel Small.abroad [.numeric .weightLb] fun _ => true).1 hweight
  have hsame := (appliesTo_without Small.parcel Small.abroad [.text .notes, .skus] fun _ => true).2 hnamed
  exact ⟨hweight, happlies, hnamed, hsame.trans happlies, by decide +kernel⟩

end Tariff
