/-
  Tariff.Proofs.Catalog.Loading — a catalog that was written is loaded again.

  What is written of an accepted service passes all three readers: its names are known,
  its data is read, and the service that is read is as well-formed as the one it was.
  - `nameFaults_toJson`: no name in it is unknown.
  - `ofServices_eq_ok_iff`: which services make a catalog.
  - `loads_written`: the services again, in whichever document they are.
-/
import Tariff.Proofs.Catalog.Names
import Tariff.Proofs.Service.Json

namespace Tariff

open Json

/-! ## Well-formed without signs of zeros -/

theorem Decimal.unsignZero_le_unsignZero_iff {a b : Decimal} : a.unsignZero ≤ b.unsignZero ↔ a ≤ b := by
  have hle : ∀ c d : Decimal, c ≤ d ↔ c.value ≤ d.value := fun _ _ => Iff.rfl
  rw [hle, hle, value_unsignZero, value_unsignZero]

theorem Decimal.zero_le_unsignZero_iff {d : Decimal} : .zero ≤ d.unsignZero ↔ .zero ≤ d :=
  Decimal.unsignZero_le_unsignZero_iff (a := .zero)

theorem TierRange.WellFormed.unsignZeros {r : TierRange} (h : r.WellFormed) : r.unsignZeros.WellFormed where
  min := Decimal.zero_le_unsignZero_iff.mpr h.min
  max := Decimal.unsignZero_le_unsignZero_iff.mpr h.max
  multiplier := Decimal.zero_le_unsignZero_iff.mpr h.multiplier

theorem TierTable.WellFormed.unsignZeros {t : TierTable} (h : t.WellFormed) : t.unsignZeros.WellFormed where
  ranges_ne_nil := by simpa [TierTable.unsignZeros] using h.ranges_ne_nil
  ranges := by
    intro _ hmem
    obtain ⟨r, hr, rfl⟩ := List.mem_map.mp hmem
    exact (h.ranges r hr).unsignZeros

theorem Calculation.WellFormed.unsignZeros {c : Calculation} (h : c.WellFormed) : c.unsignZeros.WellFormed where
  value := Decimal.zero_le_unsignZero_iff.mpr h.value
  tiers hkind := by simpa [Calculation.unsignZeros] using h.tiers hkind
  table := by
    intro _ hmem
    obtain ⟨t, ht, rfl⟩ := Option.map_eq_some_iff.mp hmem
    exact (h.table t ht).unsignZeros
  skus := h.skus

theorem Service.WellFormed.unsignZeros {s : Service} (h : s.WellFormed) : s.unsignZeros.WellFormed where
  id := h.id
  serviceId := h.serviceId
  unitPrice := Decimal.zero_le_unsignZero_iff.mpr h.unitPrice
  calculations := by
    intro _ hmem
    obtain ⟨c, hc, rfl⟩ := List.mem_map.mp hmem
    exact (h.calculations c hc).unsignZeros
  conditions := h.conditions

namespace Catalog

/-! ## Names -/

theorem flatMap_itemsAt_eq_nil {p : Place} {name : String} {v : Value} {items : List Value}
    {faults : Place → Value → List Fault} (hv : v.get? name = some (.array items))
    (h : ∀ p, ∀ item ∈ items, faults p item = []) : ((itemsAt p name v).flatMap fun (item, p) => faults p item) = [] := by
  simp only [itemsAt, hv, Option.bind_eq_bind, Option.bind_some, Value.array?, List.flatMap_eq_nil_iff]
  rintro ⟨item, q⟩ hitem
  obtain ⟨⟨item', i⟩, hi, heq⟩ := List.mem_map.mp hitem
  obtain ⟨rfl, rfl⟩ := Prod.mk.inj heq
  exact h _ item' (List.fst_mem_of_mem_zipIdx hi)

variable {arrange : List (String × Value) → List (String × Value)}

theorem conditionFaults_of_arranged {p : Place} {c : Condition} {members : List (String × Value)}
    (h : Arranged members c.fields) : conditionFaults p (.object members) = [] := by
  simp [conditionFaults, unknownNames, Value.get?, h.lookup, Condition.fields, List.lookup_cons, Value.string?,
    Field.ofText?_name, Operator.ofText?_name]

/-- The faults in a group are those of its members. -/
theorem memberFaults_of_arranged {p : Place} {q : Quantifier} {items : List Value} {members : List (String × Value)}
    (h : Arranged members (Rule.groupFields q items)) :
    memberFaults p members = itemFaults (p.field "conditions") 0 items := by
  rw [memberFaults_eq, h.lookup]
  simp [Rule.groupFields, List.lookup_cons, listFaults]

mutual

/-- A rule is a condition or has what makes it a group. -/
theorem ruleFaults_toJson (harr : ∀ ms, (arrange ms).Perm ms) : ∀ (p : Place) (r : Rule),
    ruleFaults p (r.toJson.rearranged arrange) = []
  | p, .condition c => by
    obtain ⟨members, hv, h⟩ := c.exists_arranged harr
    rw [Rule.toJson, hv, ruleFaults, if_pos (Condition.field_isSome_of_arranged h), conditionFaults_of_arranged h]
  | p, .group q rules => by
    obtain ⟨members, hv, h⟩ := Rule.exists_arranged_group harr q rules
    have hitems := itemFaults_toJson harr (p.field "conditions") 0 rules
    rw [hv, ruleFaults, memberFaults_of_arranged h, hitems]
    simp [h.lookup, Rule.groupFields, List.lookup_cons]

theorem itemFaults_toJson (harr : ∀ ms, (arrange ms).Perm ms) : ∀ (p : Place) (i : Nat) (rules : List Rule),
    itemFaults p i (rules.map fun r => r.toJson.rearranged arrange) = []
  | p, i, [] => by rw [List.map_nil, itemFaults]
  | p, i, r :: rest => by
    rw [List.map_cons, itemFaults, ruleFaults_toJson harr, itemFaults_toJson harr, List.append_nil]

end

theorem groupFaults_toJson (harr : ∀ ms, (arrange ms).Perm ms) (p : Place) (g : RuleGroup) :
    groupFaults p (g.toJson.rearranged arrange) = [] := by
  obtain ⟨members, hv, h⟩ := Rule.exists_arranged_group harr g.quantifier g.rules
  rw [RuleGroup.toJson, RuleGroup.toRule, hv, groupFaults, memberFaults_of_arranged h]
  exact itemFaults_toJson harr (p.field "conditions") 0 g.rules

theorem kindFaults_toJson (harr : ∀ ms, (arrange ms).Perm ms) (p : Place) (c : Calculation) :
    kindFaults p (c.toJson.rearranged arrange) = [] := by
  obtain ⟨members, hv, h⟩ := Value.exists_arranged harr (v := c.toJson) rfl (by simp)
  have hkind : (CalculationKind.names.lookup c.kind.name).isSome = true := by cases c.kind <;> rfl
  simp [hv, kindFaults, unknownNames, Value.get?, h.lookup, Value.string?, hkind]

/-- No name that is written is unknown. -/
theorem nameFaults_toJson (harr : ∀ ms, (arrange ms).Perm ms) (p : Place) (s : Service) :
    nameFaults p (s.toJson.rearranged arrange) = [] := by
  obtain ⟨members, hv, h⟩ := Value.exists_arranged harr (v := s.toJson) rfl (by simp)
  have hcalculations : (s.toJson.rearranged arrange).get? "calculations" =
      some (.array (s.calculations.map fun c => c.toJson.rearranged arrange)) := by
    simp [hv, Value.get?, h.lookup, List.lookup_cons, Function.comp_def]
  have hgroups : (s.toJson.rearranged arrange).get? "rule_groups" =
      some (.array (s.ruleGroups.map fun g => g.toJson.rearranged arrange)) := by
    simp [hv, Value.get?, h.lookup, List.lookup_cons, Function.comp_def]
  rw [nameFaults, flatMap_itemsAt_eq_nil hcalculations, flatMap_itemsAt_eq_nil hgroups, List.append_nil]
  · intro p item hitem
    obtain ⟨g, -, rfl⟩ := List.mem_map.mp hitem
    exact groupFaults_toJson harr p g
  · intro p item hitem
    obtain ⟨c, -, rfl⟩ := List.mem_map.mp hitem
    exact kindFaults_toJson harr p c

/-! ## Services -/

theorem ofServices_eq_ok_iff {services : List Service} {catalog : Catalog} :
    ofServices services = .ok catalog ↔ catalog = ⟨services⟩ ∧ ∀ s ∈ services, s.WellFormed := by
  have hfaults := flatMap_zipIdx_eq_nil_iff services (fun s i => s.faults (placeOf i)) fun _ _ => Service.faults_eq_nil_iff
  rw [ofServices, ← hfaults]
  generalize services.zipIdx.flatMap _ = faults
  cases faults with
  | nil => simp [Fault.first, bind, Except.bind, pure, Except.pure, eq_comm]
  | cons f fs => simp [Fault.first, bind, Except.bind]

theorem readService_toJson (harr : ∀ ms, (arrange ms).Perm ms) (i : Nat) (s : Service) :
    readService i (s.toJson.rearranged arrange) = .ok s.unsignZeros := by
  rw [readService, nameFaults_toJson harr, s.read_toJson harr]
  rfl

theorem mapM_readService (harr : ∀ ms, (arrange ms).Perm ms) (services : List Service) (i : Nat) :
    ((services.map fun s => s.toJson.rearranged arrange).zipIdx i).mapM (fun (v, i) => readService i v) =
      .ok (services.map (·.unsignZeros)) := by
  induction services generalizing i with
  | nil => rfl
  | cons s rest ih =>
    rw [List.map_cons, List.zipIdx_cons, List.mapM_cons, ih]
    simp only [readService_toJson harr]
    rfl

theorem ofValues_toJson (harr : ∀ ms, (arrange ms).Perm ms) {services : List Service} {catalog : Catalog}
    (h : ofServices services = .ok catalog) :
    ofValues (services.map fun s => s.toJson.rearranged arrange) = .ok ⟨services.map (·.unsignZeros)⟩ := by
  rw [ofValues, mapM_readService harr]
  refine ofServices_eq_ok_iff.mpr ⟨rfl, ?_⟩
  intro _ hmem
  obtain ⟨s, hs, rfl⟩ := List.mem_map.mp hmem
  exact ((ofServices_eq_ok_iff.mp h).2 s hs).unsignZeros

/-- What is written of the services of a catalog is loaded as these services, in their order, whatever the order of the
    members in its objects. A decimal loses at most the sign of a zero. The list can be a document by itself or stand
    under `services` in one, next to anything else, and so in any texts that are read as such documents. -/
theorem loads_written :
    (∀ (arrange : List (String × Value) → List (String × Value)) (services : List Service) (catalog : Catalog),
        (∀ ms, (arrange ms).Perm ms) → ofServices services = .ok catalog →
          ofValues (services.map fun s => s.toJson.rearranged arrange) = .ok ⟨services.map (·.unsignZeros)⟩ ∧
            ((∀ s ∈ services, ∀ d ∈ s.decimals, Decimal.ofText d.text = some d) →
              ofValues (services.map fun s => s.toJson.rearranged arrange) = .ok ⟨services⟩)) ∧
      ∀ (values : List Value) (members : List (String × Value)), members.lookup "services" = some (.array values) →
        ofJson (.object members) = ofJson (.array values) ∧
          ∀ list object : String, read? list = some (.array values) → read? object = some (.object members) →
            ofText object = ofText list := by
  constructor
  · intro arrange services catalog harr hcatalog
    have hloaded := ofValues_toJson harr hcatalog
    refine ⟨hloaded, ?_⟩
    intro hexact
    have hsame : ∀ s ∈ services, s.unsignZeros = s := fun s hs =>
      Service.unsignZeros_eq_self fun d hd => Decimal.unsignZero_eq_self (hexact s hs d hd)
    rw [hloaded, List.map_congr_left hsame, List.map_id']
  · intro values members hservices
    have hdocument : ofJson (.object members) = ofJson (.array values) := by
      simp only [ofJson, hservices]
    refine ⟨hdocument, ?_⟩
    intro list object hlist hobject
    rw [ofText, ofText, hlist, hobject]
    exact hdocument

namespace Small

def tiered : Service where
  id := "cs-1"
  customerId := "c-1"
  serviceId := "s-1"
  serviceName := "Storage"
  unitPrice := (Decimal.ofParts false 250 2).getD .zero
  active := false
  ruleGroups := [⟨.any, [.condition ⟨.numeric .weightLb, .between, ["1", "5"]⟩,
    .group .all [.condition ⟨.skus, .isIn, ["A-1"]⟩, .group .any []]]⟩]
  calculations := [
    ⟨.caseBasedTier, .zero, some ⟨[⟨.zero, (Decimal.ofParts false 100 1).getD .zero, .zero⟩], ["BOX"]⟩, []⟩,
    ⟨.productSpecific, .zero, none, ["A-1"]⟩]

/-- The members by their names, as the reader of a text has them. -/
def byName (members : List (String × Value)) : List (String × Value) :=
  members.mergeSort fun a b => a.1 ≤ b.1

end Small

theorem loads_written_tiered :
    ofServices [Small.tiered] = .ok ⟨[Small.tiered]⟩ ∧
      ofValues [Small.tiered.toJson.rearranged Small.byName] = .ok ⟨[Small.tiered]⟩ ∧
      read? "[null]" = some (.array [.null]) ∧
      read? "\x7b\"list\":[],\"services\":[null]\x7d" = some (.object [("list", .array []), ("services", .array [.null])]) ∧
      ofText "\x7b\"list\":[],\"services\":[null]\x7d" = ofText "[null]" := by
  have hperm : ∀ ms, (Small.byName ms).Perm ms := fun ms => List.mergeSort_perm ms _
  have hfaults : Small.tiered.faults (placeOf 0) = [] := by decide +kernel
  have hservices : ofServices [Small.tiered] = .ok ⟨[Small.tiered]⟩ :=
    ofServices_eq_ok_iff.mpr ⟨rfl, by simpa using Service.faults_eq_nil_iff.mp hfaults⟩
  have hexact : ∀ s ∈ [Small.tiered], ∀ d ∈ s.decimals, Decimal.ofText d.text = some d := by decide +kernel
  have hlist : read? "[null]" = some (.array [.null]) := by
    have hlexemes : lexemes "[null]".toList = some [.openArray, .null, .closeArray] := by decide +kernel
    unfold read? Written.ofText
    rw [hlexemes]
    rfl
  have hobject : read? "\x7b\"list\":[],\"services\":[null]\x7d" =
      some (.object [("list", .array []), ("services", .array [.null])]) := by
    have hlexemes : lexemes "\x7b\"list\":[],\"services\":[null]\x7d".toList = some [.openObject, .string "list", .colon,
        .openArray, .closeArray, .comma, .string "services", .colon, .openArray, .null, .closeArray, .closeObject] := by
      decide +kernel
    unfold read? Written.ofText
    rw [hlexemes]
    rfl
  exact ⟨hservices, (loads_written.1 _ _ _ hperm hservices).2 hexact, hlist, hobject,
    (loads_written.2 _ _ rfl).2 _ _ hlist hobject⟩

end Catalog

end Tariff
