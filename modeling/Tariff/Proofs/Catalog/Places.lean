/-
  Tariff.Proofs.Catalog.Places — what a refused service is refused for.

  `Service.at?` follows the steps of a place into a service, and `HasDefect` says what can
  be wrong with the element that is found there.
  - `follow_toJson`: the steps lead to the same element in the JSON form.
  - `located_of_mem_faults`: each fault is at a place of the service and is real there.
  - `Service.validate_verdict`: which services are accepted, and what a refusal points at.
-/
import Tariff.Proofs.Catalog.Validation
import Tariff.Proofs.Rule.Json

namespace Tariff

/-! ## Places -/

def Step.path (steps : List Step) : String := String.join (steps.map (·.text))

def Place.down (p : Place) (steps : List Step) : Place := { p with steps := p.steps ++ steps }

theorem Place.down_nil (p : Place) : p.down [] = p := by simp [down]

theorem Place.down_down (p : Place) (as bs : List Step) : (p.down as).down bs = p.down (as ++ bs) := by
  simp [down, List.append_assoc]

theorem Place.item_of_field (p : Place) (name : String) (index : Nat) :
    (p.field name).item index = p.down [.field name, .item index] := by
  simp [field, item, down]

theorem Place.text_down (p : Place) (steps : List Step) : (p.down steps).text = p.text ++ Step.path steps := by
  simp [text, down, Step.path, String.append_assoc]

inductive Element where
  | service (s : Service)
  | calculation (c : Calculation)
  | tiers (t : TierTable)
  | range (r : TierRange)
  | condition (c : Condition)

def TierTable.at? (t : TierTable) : List Step → Option Element
  | [] => some (.tiers t)
  | [.field "ranges", .item i] => t.ranges[i]?.map .range
  | _ => none

def Calculation.at? (c : Calculation) : List Step → Option Element
  | [] => some (.calculation c)
  | .field "tier_config" :: steps => c.tiers.bind (·.at? steps)
  | _ => none

/-- Each condition has its place among the members of the groups it is in. -/
def Rule.at? : Rule → List Step → Option Element
  | .condition c, [] => some (.condition c)
  | .group _ rules, .field "conditions" :: .item i :: steps => rules[i]?.bind (Rule.at? · steps)
  | _, _ => none

def Service.at? (s : Service) : List Step → Option Element
  | [] => some (.service s)
  | .field "calculations" :: .item i :: steps => s.calculations[i]?.bind (·.at? steps)
  | .field "rule_groups" :: .item i :: steps => s.ruleGroups[i]?.bind (·.toRule.at? steps)
  | _ => none

/-- What can be wrong with an element, with the data that is wrong. -/
inductive Element.HasDefect : Element → Defect → Prop
  | blankId {s : Service} : Text.trim s.id = "" → HasDefect (.service s) (.missingField "id")
  | blankServiceId {s : Service} : Text.trim s.serviceId = "" → HasDefect (.service s) (.missingField "service_id")
  | negativePrice {s : Service} : s.unitPrice < .zero → HasDefect (.service s) (.negative "unit_price" s.unitPrice)
  | negativeValue {c : Calculation} : c.value < .zero → HasDefect (.calculation c) (.negative "value" c.value)
  | missingTiers {c : Calculation} : c.kind.requiresTiers = true → c.tiers = none →
      HasDefect (.calculation c) (.missingTiers c.kind)
  | emptyAllowList {c : Calculation} : c.kind = .productSpecific → (∀ sku ∈ c.skus, Sku.canonical sku = "") →
      HasDefect (.calculation c) (.emptyAllowList c.kind)
  | noRanges {t : TierTable} : t.ranges = [] → HasDefect (.tiers t) (.missingField "ranges")
  | negativeMin {r : TierRange} : r.min < .zero → HasDefect (.range r) (.negative "min" r.min)
  | negativeMax {r : TierRange} : r.max < .zero → HasDefect (.range r) (.negative "max" r.max)
  | negativeMultiplier {r : TierRange} : r.multiplier < .zero → HasDefect (.range r) (.negative "multiplier" r.multiplier)
  | invertedRange {r : TierRange} : r.max < r.min → HasDefect (.range r) (.invertedRange r.min r.max)
  | emptyValues {c : Condition} : c.values = [] → HasDefect (.condition c) (.emptyValues c.operator)

/-! ## Places in the JSON form -/

def Json.Value.follow (v : Json.Value) : List Step → Option Json.Value
  | [] => some v
  | .field name :: steps => (v.get? name).bind (follow · steps)
  | .item i :: steps => (v.array?.bind (·[i]?)).bind (follow · steps)

def Element.toJson : Element → Json.Value
  | .service s => s.toJson
  | .calculation c => c.toJson
  | .tiers t => t.toJson
  | .range r => r.toJson
  | .condition c => c.toJson

theorem TierTable.follow_toJson {t : TierTable} {steps : List Step} {element : Element}
    (h : t.at? steps = some element) : t.toJson.follow steps = some element.toJson := by
  unfold at? at h
  split at h
  · cases h
    rfl
  · rename_i i
    obtain ⟨r, hr, rfl⟩ := Option.map_eq_some_iff.mp h
    simp [toJson, Json.Value.follow, Json.Value.get?, Json.Value.array?, hr, Element.toJson]
  · cases h

theorem Calculation.follow_toJson {c : Calculation} {steps : List Step} {element : Element}
    (h : c.at? steps = some element) : c.toJson.follow steps = some element.toJson := by
  unfold at? at h
  split at h
  · cases h
    rfl
  · obtain ⟨t, ht, hat⟩ := Option.bind_eq_some_iff.mp h
    simpa [toJson, Json.Value.follow, Json.Value.get?, List.lookup_cons, ht] using TierTable.follow_toJson hat
  · cases h

theorem Rule.follow_toJson {r : Rule} {steps : List Step} {element : Element}
    (h : r.at? steps = some element) : r.toJson.follow steps = some element.toJson := by
  -- the steps name one member after the other
  induction r, steps using Rule.at?.induct with
  | case1 c =>
    cases h
    rfl
  | case2 q rules i steps ih =>
    rw [Rule.at?] at h
    obtain ⟨r, hr, hat⟩ := Option.bind_eq_some_iff.mp h
    simpa [toJson, toJsonItems_eq_map, Json.Value.follow, Json.Value.get?, Json.Value.array?, List.lookup_cons, hr]
      using ih r hat
  | case3 r steps _ _ => simp_all [Rule.at?]

/-- The steps lead to the same element in the JSON form of the service. -/
theorem Service.follow_toJson {s : Service} {steps : List Step} {element : Element}
    (h : s.at? steps = some element) : s.toJson.follow steps = some element.toJson := by
  unfold at? at h
  split at h
  · cases h
    rfl
  · obtain ⟨c, hc, hat⟩ := Option.bind_eq_some_iff.mp h
    simpa [toJson, Json.Value.follow, Json.Value.get?, Json.Value.array?, List.lookup_cons, hc]
      using Calculation.follow_toJson hat
  · obtain ⟨g, hg, hat⟩ := Option.bind_eq_some_iff.mp h
    simpa [toJson, RuleGroup.toJson, Json.Value.follow, Json.Value.get?, Json.Value.array?, List.lookup_cons, hg]
      using Rule.follow_toJson hat
  · cases h

/-! ## Where faults are -/

/-- A fault at a place below `p`, where `at?` finds an element with its defect. -/
def Located (p : Place) (at? : List Step → Option Element) (f : Fault) : Prop :=
  ∃ steps element, f.place = p.down steps ∧ at? steps = some element ∧ element.HasDefect f.defect

theorem Located.here {p : Place} {at? : List Step → Option Element} {element : Element} {d : Defect}
    (hat : at? [] = some element) (hd : element.HasDefect d) : Located p at? ⟨p, d⟩ :=
  ⟨[], element, p.down_nil.symm, hat, hd⟩

/-- What is located in a part is located in the whole. -/
theorem Located.below {p : Place} {steps : List Step} {part whole : List Step → Option Element} {f : Fault}
    (h : Located (p.down steps) part f) (hat : ∀ rest, whole (steps ++ rest) = part rest) : Located p whole f := by
  obtain ⟨rest, element, hplace, hpart, hd⟩ := h
  exact ⟨steps ++ rest, element, by rw [hplace, Place.down_down], by rw [hat, hpart], hd⟩

theorem eq_of_mem_negativeFaults {p : Place} {name : String} {d : Decimal} {f : Fault}
    (h : f ∈ negativeFaults p name d) : f = ⟨p, .negative name d⟩ ∧ d < .zero := by
  unfold negativeFaults at h
  split at h
  · rename_i hlt
    exact ⟨List.mem_singleton.mp h, hlt⟩
  · cases h

theorem eq_of_mem_blankFaults {p : Place} {name s : String} {f : Fault} (h : f ∈ blankFaults p name s) :
    f = ⟨p, .missingField name⟩ ∧ Text.trim s = "" := by
  unfold blankFaults at h
  split at h
  · rename_i hblank
    exact ⟨List.mem_singleton.mp h, hblank⟩
  · cases h

/-- A fault of an item of a list. -/
theorem exists_of_mem_flatMap_zipIdx {α : Type} {xs : List α} {faults : α × Nat → List Fault} {f : Fault}
    (h : f ∈ xs.zipIdx.flatMap faults) : ∃ (i : Nat) (x : α), xs[i]? = some x ∧ f ∈ faults (x, i) := by
  obtain ⟨⟨x, i⟩, hx, hf⟩ := List.mem_flatMap.mp h
  exact ⟨i, x, List.mk_mem_zipIdx_iff_getElem?.mp hx, hf⟩

theorem TierRange.located_of_mem_faults {p : Place} {r : TierRange} {f : Fault} (h : f ∈ r.faults p) :
    f.place = p ∧ (Element.range r).HasDefect f.defect := by
  simp only [faults, List.mem_append] at h
  rcases h with ((h | h) | h) | h
  · obtain ⟨rfl, hlt⟩ := eq_of_mem_negativeFaults h
    exact ⟨rfl, .negativeMin hlt⟩
  · obtain ⟨rfl, hlt⟩ := eq_of_mem_negativeFaults h
    exact ⟨rfl, .negativeMax hlt⟩
  · obtain ⟨rfl, hlt⟩ := eq_of_mem_negativeFaults h
    exact ⟨rfl, .negativeMultiplier hlt⟩
  · split at h
    · rename_i hlt
      obtain rfl := List.mem_singleton.mp h
      exact ⟨rfl, .invertedRange hlt⟩
    · cases h

theorem TierTable.located_of_mem_faults {p : Place} {t : TierTable} {f : Fault} (h : f ∈ t.faults p) :
    Located p t.at? f := by
  rw [faults, List.mem_append] at h
  rcases h with h | h
  · split at h
    · rename_i hnil
      obtain rfl := List.mem_singleton.mp h
      exact .here rfl (.noRanges (List.isEmpty_iff.mp hnil))
    · cases h
  · obtain ⟨i, r, hr, hf⟩ := exists_of_mem_flatMap_zipIdx h
    obtain ⟨hplace, hd⟩ := TierRange.located_of_mem_faults hf
    refine ⟨[.field "ranges", .item i], .range r, by rw [hplace, Place.item_of_field], ?_, hd⟩
    simp [at?, hr]

theorem Calculation.located_of_mem_faults {p : Place} {c : Calculation} {f : Fault} (h : f ∈ c.faults p) :
    Located p c.at? f := by
  rw [faults, List.mem_append, List.mem_append] at h
  rcases h with (h | h) | h
  · obtain ⟨rfl, hlt⟩ := eq_of_mem_negativeFaults h
    exact .here rfl (.negativeValue hlt)
  · split at h
    · rename_i t ht
      have htable : Located (p.down [.field "tier_config"]) t.at? f := TierTable.located_of_mem_faults h
      refine htable.below ?_
      intro rest
      simp [at?, ht]
    · rename_i hnone
      split at h
      · rename_i hkind
        obtain rfl := List.mem_singleton.mp h
        exact .here rfl (.missingTiers hkind hnone)
      · cases h
  · split at h
    · rename_i hempty
      simp only [Bool.and_eq_true, decide_eq_true_eq] at hempty
      obtain rfl := List.mem_singleton.mp h
      exact .here rfl (.emptyAllowList hempty.1 (Sku.setOf_isEmpty_iff.mp hempty.2))
    · cases h

mutual

theorem Rule.located_of_mem_faults : ∀ (p : Place) (r : Rule) (f : Fault), f ∈ r.faults p → Located p r.at? f
  | p, .condition c, f, h => by
    rw [Rule.faults] at h
    split at h
    · rename_i hnil
      obtain rfl := List.mem_singleton.mp h
      exact .here rfl (.emptyValues (List.isEmpty_iff.mp hnil))
    · cases h
  | p, .group q rules, f, h => by
    rw [Rule.faults] at h
    obtain ⟨j, r, hr, hf⟩ := Rule.located_of_mem_memberFaults (p.field "conditions") 0 rules f h
    rw [Nat.zero_add, Place.item_of_field] at hf
    refine hf.below ?_
    intro rest
    simp [Rule.at?, hr]

/-- A fault of a member, by its place among those with the index `i` and on. -/
theorem Rule.located_of_mem_memberFaults : ∀ (p : Place) (i : Nat) (rules : List Rule) (f : Fault),
    f ∈ Rule.memberFaults p i rules → ∃ (j : Nat) (r : Rule), rules[j]? = some r ∧ Located (p.item (i + j)) r.at? f
  | p, i, [], f, h => by cases h
  | p, i, r :: rest, f, h => by
    rw [Rule.memberFaults, List.mem_append] at h
    rcases h with h | h
    · exact ⟨0, r, rfl, Rule.located_of_mem_faults (p.item i) r f h⟩
    · obtain ⟨j, r', hr', hf⟩ := Rule.located_of_mem_memberFaults p (i + 1) rest f h
      refine ⟨j + 1, r', by simpa using hr', ?_⟩
      rwa [Nat.add_right_comm, Nat.add_assoc] at hf

end

/-- Each fault is at a place of the service whose element has the defect. -/
theorem Service.located_of_mem_faults {p : Place} {s : Service} {f : Fault} (h : f ∈ s.faults p) :
    Located p s.at? f := by
  simp only [faults, List.mem_append] at h
  rcases h with (((h | h) | h) | h) | h
  · obtain ⟨rfl, hblank⟩ := eq_of_mem_blankFaults h
    exact .here rfl (.blankId hblank)
  · obtain ⟨rfl, hblank⟩ := eq_of_mem_blankFaults h
    exact .here rfl (.blankServiceId hblank)
  · obtain ⟨rfl, hlt⟩ := eq_of_mem_negativeFaults h
    exact .here rfl (.negativePrice hlt)
  · obtain ⟨i, c, hc, hf⟩ := exists_of_mem_flatMap_zipIdx h
    have hcalculation := Calculation.located_of_mem_faults hf
    rw [Place.item_of_field] at hcalculation
    refine hcalculation.below ?_
    intro rest
    simp [at?, hc]
  · obtain ⟨i, g, hg, hf⟩ := exists_of_mem_flatMap_zipIdx h
    have hrule := Rule.located_of_mem_faults _ _ _ hf
    rw [Place.item_of_field] at hrule
    refine hrule.below ?_
    intro rest
    simp [at?, hg]

/-! ## The verdict -/

theorem Fault.first_eq_ok_iff {fs : List Fault} : Fault.first fs = .ok () ↔ fs = [] := by
  cases fs <;> simp [Fault.first]

theorem Fault.mem_of_first {fs : List Fault} {f : Fault} (h : Fault.first fs = .error f) : f ∈ fs := by
  cases fs with
  | nil => cases h
  | cons g fs =>
    cases h
    exact List.mem_cons_self

/-- A service is accepted exactly if it is well-formed. A refusal points at an element of it, by a path behind `p`, and
    names a defect that this element has. -/
theorem Service.validate_verdict (p : Place) (s : Service) :
    (s.validate p = .ok () ↔ s.WellFormed) ∧
      ∀ f, s.validate p = .error f → ∃ steps element, f.place.text = p.text ++ Step.path steps ∧
        s.at? steps = some element ∧ s.toJson.follow steps = some element.toJson ∧ element.HasDefect f.defect := by
  constructor
  · rw [validate, Fault.first_eq_ok_iff, faults_eq_nil_iff]
  · intro f h
    obtain ⟨steps, element, hplace, hat, hd⟩ := located_of_mem_faults (Fault.mem_of_first h)
    exact ⟨steps, element, by rw [hplace, Place.text_down], hat, follow_toJson hat, hd⟩

namespace Small

def nested : Service where
  id := "cs-1"
  customerId := "c-1"
  serviceId := "s-1"
  serviceName := "Storage"
  unitPrice := (Decimal.ofParts false 250 2).getD .zero
  active := true
  ruleGroups := [⟨.all, [.condition ⟨.text .carrier, .eq, ["UPS"]⟩, .group .any [.condition ⟨.skus, .contains, []⟩]]⟩]
  calculations := [⟨.caseBasedTier, .zero, some ⟨[⟨.zero, .zero, .zero⟩], []⟩, []⟩]

end Small

theorem Service.validate_verdict_nested :
    ∃ f, Small.nested.validate ⟨"services", [.item 1]⟩ = .error f ∧
      f.place.text = "services[1].rule_groups[0].conditions[1].conditions[0]" ∧
      ∃ steps element, f.place.text = "services[1]" ++ Step.path steps ∧ Small.nested.at? steps = some element ∧
        Small.nested.toJson.follow steps = some element.toJson ∧ element.HasDefect f.defect := by
  refine ⟨_, rfl, by decide +kernel, ?_⟩
  exact (Service.validate_verdict ⟨"services", [.item 1]⟩ Small.nested).2 _ rfl

end Tariff
