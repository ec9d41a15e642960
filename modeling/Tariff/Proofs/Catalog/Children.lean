/-
  Tariff.Proofs.Catalog.Children — what the rules of a loaded catalog were given as.

  The reader of a group fills in what is missing, so a blank object is read as a group that
  holds for every order. The search for names refuses such data, but it looks only at groups
  that are objects, in services that are objects.
  - `RuleGroup.read_rules` / `Service.read_groups`: what the reader takes for rules and groups.
  - `loaded_rules`: which rules of a loaded catalog can be blank, and where.
  - `blank_rule_loaded`: one is, and the service is charged for every order.
-/
import Tariff.Proofs.Catalog.Names
import Tariff.Proofs.Rule.Json
import Tariff.Rule.Matching

namespace Tariff

open Json

/-! ## What is read -/

/-- A rule without a `field` is read as a group. -/
theorem Rule.read_of_group {v : Value} (h : v.get? "field" = none) : read v = (RuleGroup.read v).map (·.toRule) := by
  cases v with
  | object members =>
    have hnone : members.lookup "field" = none := h
    rw [read, hnone]
    rfl
  | array items => rw [read, RuleGroup.read]
  | _ => simp [read, RuleGroup.read]

namespace RuleGroup

/-- A group that was read has the rules that were read for it, if it was given any. -/
theorem readWith_rules {rules : Option (Reading (List Rule))} {v : Value} {g : RuleGroup}
    (h : readWith rules v = .ok g) : rules.getD (.ok []) = .ok g.rules := by
  obtain ⟨src, -, h⟩ := bind_eq_ok_iff.mp h
  obtain ⟨_, -, h⟩ := bind_eq_ok_iff.mp h
  obtain ⟨q, -, h⟩ := bind_eq_ok_iff.mp h
  obtain ⟨rs, hrules, h⟩ := bind_eq_ok_iff.mp h
  cases h
  exact hrules

/-- A group that was read has no members but its own. -/
theorem named_of_read {members : List (String × Value)} {g : RuleGroup} (h : read (.object members) = .ok g)
    {name : String} {v : Value} (hv : members.lookup name = some v) :
    name = "logic_operator" ∨ name = "conditions" := by
  obtain ⟨src, hsrc, h⟩ := bind_eq_ok_iff.mp h
  obtain ⟨_, hcheck, -⟩ := bind_eq_ok_iff.mp h
  rw [← members_of_object hsrc] at hv
  by_contra hname
  rw [not_or] at hname
  rcases src.sound_of_check hcheck hv with hsound | ⟨-, hopen⟩
  · simp [Slot.fault, Source.slot, List.lookup_cons, beq_false_of_ne hname.1, beq_false_of_ne hname.2] at hsound
  · cases hopen

/-- The rules of a group that was read are those of the items in its data. -/
theorem read_rules {v : Value} {g : RuleGroup} (h : read v = .ok g) :
    (Catalog.rulesOf v).mapM Rule.read = .ok g.rules := by
  have hlist : ∀ list : Option Value, (list.map Rule.readList).getD (.ok []) = .ok g.rules →
      ((list.bind (·.array?)).getD []).mapM Rule.read = .ok g.rules := by
    intro list hlist
    cases list with
    | none => exact hlist
    | some list =>
      cases list with
      | array items =>
        rw [Option.map_some, Option.getD_some, Rule.readList, Rule.readItems_eq_mapM] at hlist
        exact hlist
      | _ => cases hlist
  cases v with
  | object members =>
    have hrules := readWith_rules h
    rw [Rule.readMember_eq] at hrules
    exact hlist (members.lookup "conditions") hrules
  | array items =>
    have hrules := readWith_rules h
    rw [Rule.readSecond_eq] at hrules
    exact hlist items[1]? hrules
  | _ => exact readWith_rules h

end RuleGroup

/-- The list under `name` of a record, by the place of the name in an array. -/
theorem Catalog.listIn_of_source {type name : String} {names : List String} {required index : Nat} {v : Value}
    {src : Source} (h : Source.of type names required v = .ok src) (hn : names.Nodup) (hi : names[index]? = some name) :
    listIn name index v = ((src.members.lookup name).bind (·.array?)).getD [] := by
  cases v with
  | object members => rw [members_of_object h, listIn]
  | array items => rw [members_of_array h, lookup_zip hn hi, listIn]
  | _ => cases h

/-- The rule groups of a service that was read have all been read. -/
theorem Service.read_groups {v : Value} {s : Service} (h : read v = .ok s) :
    ∀ g ∈ Catalog.groupsOf v, ∃ x, RuleGroup.read g = .ok x := by
  obtain ⟨src, hsrc, h⟩ := bind_eq_ok_iff.mp h
  obtain ⟨_, hcheck, -⟩ := bind_eq_ok_iff.mp h
  intro g hg
  rw [Catalog.groupsOf, Catalog.listIn_of_source hsrc (by decide) rfl] at hg
  cases hlist : src.members.lookup "rule_groups" with
  | none =>
    rw [hlist] at hg
    cases hg
  | some list =>
    rw [hlist] at hg
    rcases src.sound_of_check hcheck hlist with hsound | ⟨hnone, -⟩
    · obtain ⟨groups, hgroups⟩ := src.read_of_slot (readList RuleGroup.read) hlist (Option.some.inj hsound)
      cases list with
      | array items => exact ok_of_mem_mapM hgroups hg
      | _ => cases hgroups
    · cases hnone

namespace Catalog

/-! ## Rules as they were given -/

/-- Data that is meant as a rule: an object with a `field`, or with something of a group. -/
structure RuleShaped (v : Value) : Prop where
  isObject : v.isObject = true
  named : (v.get? "field").isSome = true ∨ (v.get? "conditions").isSome = true ∨
    (v.get? "logic_operator").isSome = true

/-- The search for names lets nothing else pass. -/
theorem ruleShaped_of_ruleFaults {p : Place} {v : Value} (h : ruleFaults p v = []) : RuleShaped v := by
  cases v with
  | object members =>
    refine ⟨rfl, ?_⟩
    by_contra hnone
    simp only [Value.get?, not_or, Option.not_isSome_iff_eq_none] at hnone
    rw [ruleFaults] at h
    simp [hnone] at h
  | _ => simp [ruleFaults] at h

/-- What is read as a rule and has not the shape of one is an object without members, or an array. -/
theorem ruleShaped_or_of_read {v : Value} {r : Rule} (h : Rule.read v = .ok r) :
    RuleShaped v ∨ v = .object [] ∨ ∃ items, v = .array items := by
  cases v with
  | array items => exact .inr (.inr ⟨items, rfl⟩)
  | object members =>
    cases members with
    | nil => exact .inr (.inl rfl)
    | cons m rest =>
      obtain ⟨name, w⟩ := m
      refine .inl ⟨rfl, ?_⟩
      by_contra hnone
      simp only [not_or, Option.not_isSome_iff_eq_none] at hnone
      rw [Rule.read_of_group hnone.1] at h
      obtain ⟨g, hg, -⟩ := exists_of_map_eq_ok h
      have hname : List.lookup name ((name, w) :: rest) = some w := by simp
      rcases RuleGroup.named_of_read hg hname with rfl | rfl
      · simp [Value.get?] at hnone
      · simp [Value.get?] at hnone
  | _ => cases h

/-- Every rule in a group that was read has been read. -/
theorem read_of_inside {g rule : Value} (h : Inside g rule) {x : RuleGroup} (hg : RuleGroup.read g = .ok x) :
    ∃ r, Rule.read rule = .ok r := by
  induction h generalizing x with
  | member hrule => exact ok_of_mem_mapM (RuleGroup.read_rules hg) hrule
  | within hinner hfield _ ih =>
    obtain ⟨r, hr⟩ := ok_of_mem_mapM (RuleGroup.read_rules hg) hinner
    rw [Rule.read_of_group hfield] at hr
    obtain ⟨y, hy, -⟩ := exists_of_map_eq_ok hr
    exact ih hy

/-- A service of a loaded catalog had no unknown names, and was read. -/
theorem readService_of_loaded {values : List Value} {catalog : Catalog} (h : ofValues values = .ok catalog)
    {service : Value} (hservice : service ∈ values) :
    ∃ i s, nameFaults (placeOf i) service = [] ∧ Service.read service = .ok s := by
  obtain ⟨services, hservices, -⟩ := bind_eq_ok_iff.mp h
  obtain ⟨i, hi⟩ := List.mem_iff_getElem?.mp hservice
  obtain ⟨s, hs⟩ := ok_of_mem_mapM hservices (List.mk_mem_zipIdx_iff_getElem?.mpr hi)
  exact ⟨i, s, readService_eq_ok_iff.mp hs⟩

/-- A rule in an object, in a service that is one, has the shape of a rule. Anywhere else it may be an object without
    members, or an array. -/
theorem ruleShaped_or_of_loaded {values : List Value} {catalog : Catalog} (h : ofValues values = .ok catalog)
    {service g rule : Value} (hservice : service ∈ values) (hg : g ∈ groupsOf service) (hrule : Inside g rule) :
    RuleShaped rule ∨ (service.isObject = false ∨ g.isObject = false) ∧
      (rule = .object [] ∨ ∃ items, rule = .array items) := by
  obtain ⟨i, s, hnames, hread⟩ := readService_of_loaded h hservice
  by_cases hobjects : service.isObject = true ∧ g.isObject = true
  · obtain ⟨_, hgroup⟩ := (faults_of_nameFaults hobjects.1 hnames).2 g hg
    obtain ⟨q, hq⟩ := ruleFaults_of_inside hrule hobjects.2 hgroup
    exact .inl (ruleShaped_of_ruleFaults hq)
  · obtain ⟨x, hx⟩ := Service.read_groups hread g hg
    obtain ⟨r, hr⟩ := read_of_inside hrule hx
    rw [not_and_or, Bool.not_eq_true, Bool.not_eq_true] at hobjects
    exact (ruleShaped_or_of_read hr).imp_right fun hblank => ⟨hobjects, hblank⟩

/-- Every rule of a loaded catalog was given as an object with a `field`, or with something of a group, exactly if none
    is an object without members or an array where a group, or its service, is no object. -/
theorem loaded_rules (values : List Value) (catalog : Catalog) (h : ofValues values = .ok catalog) :
    (∀ service ∈ values, ∀ g ∈ groupsOf service, ∀ rule, Inside g rule → RuleShaped rule) ↔
      ∀ service ∈ values, ∀ g ∈ groupsOf service, service.isObject = false ∨ g.isObject = false →
        ∀ rule, Inside g rule → rule ≠ .object [] ∧ ∀ items, rule ≠ .array items := by
  constructor
  · intro hall service hservice g hg _ rule hrule
    have hshape := hall service hservice g hg rule hrule
    constructor
    · rintro rfl
      simpa [Value.get?] using hshape.named
    · rintro items rfl
      cases hshape.isObject
  · intro hnone service hservice g hg rule hrule
    rcases ruleShaped_or_of_loaded h hservice hg hrule with hshape | ⟨hplace, hblank⟩
    · exact hshape
    · obtain ⟨hobject, harray⟩ := hnone service hservice g hg hplace rule hrule
      rcases hblank with hempty | ⟨items, hitems⟩
      · exact absurd hempty hobject
      · exact absurd hitems (harray items)

namespace Small

def inOrder : Value :=
  .array [.string "cs-1", .string "c-1", .string "s-1", .string "Storage", .string "5", .bool true,
    .array [.array [.string "OR", .array [conditionData "carrier"]]]]

end Small

theorem loaded_rules_in_order :
    ∃ catalog, ofValues [Small.inOrder] = .ok catalog ∧
      ∀ service ∈ [Small.inOrder], ∀ g ∈ groupsOf service, ∀ rule, Inside g rule → RuleShaped rule := by
  refine ⟨_, rfl, (loaded_rules [Small.inOrder] _ rfl).mpr ?_⟩
  intro service hservice g hg _ rule hrule
  obtain rfl := List.mem_singleton.mp hservice
  obtain rfl := List.mem_singleton.mp hg
  cases hrule with
  | member h =>
    obtain rfl := List.mem_singleton.mp h
    exact ⟨nofun, nofun⟩
  | within h hfield _ =>
    obtain rfl := List.mem_singleton.mp h
    cases hfield

namespace Small

def blankGroup : Value := .object [("conditions", .array [.object []]), ("logic_operator", .string "OR")]

def blankInOrder : Value :=
  .array [.string "cs-1", .string "c-1", .string "s-1", .string "Storage", .string "5", .bool true, .array [blankGroup]]

end Small

/-- The blank rule is refused if the service is an object. If it is an array, the rule is read as a group that holds for
    every order. -/
theorem blank_rule_loaded :
    (∃ f, ofValues [Small.serviceData [] [Small.blankGroup]] = .error f ∧ f.message =
        "services[0].rule_groups[0].conditions[0]: malformed configuration: " ++ Malformation.ambiguousRule.message) ∧
      (∃ s, ofValues [Small.blankInOrder] = .ok ⟨[s]⟩ ∧ ∀ o, s.appliesTo o = true) ∧
      ∃ g ∈ groupsOf Small.blankInOrder, Inside g (.object []) ∧ ¬RuleShaped (.object []) := by
  refine ⟨⟨_, rfl, by decide +kernel⟩, ⟨_, rfl, fun _ => rfl⟩, Small.blankGroup, .head _, .member (.head _), ?_⟩
  intro h
  simpa [Value.get?] using h.named

end Catalog

end Tariff
