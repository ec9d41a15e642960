/-
  Tariff.Proofs.Catalog.Names — unknown names are reported where they stand.

  Names are looked for in the data of a service before it is read. `Inside` has the rules of
  a group at every depth, as the reader takes them, and `HasDefect` says what can be wrong
  with the data of one.
  - `found_of_mem_nameFaults`: each fault is real where it points to, below the service.
  - `ruleFaults_of_inside`: no rule of a group is passed over.
  - `unknown_names_placed`: an unknown name is never left to the reader of the service.
-/
import Tariff.Catalog
import Tariff.Proofs.Catalog.Places
import Tariff.Proofs.Json.Reading

namespace Tariff

open Json

theorem Json.Value.follow_append (v : Value) (as bs : List Step) :
    v.follow (as ++ bs) = (v.follow as).bind (·.follow bs) := by
  induction as generalizing v with
  | nil => rfl
  | cons step as ih => cases step <;> simp only [List.cons_append, follow, Option.bind_assoc, ih]

namespace Catalog

/-! ## Services and groups as data -/

/-- The items of a list that a record has under `name` if it is an object, and in the place
    `index` if it is an array. -/
def listIn (name : String) (index : Nat) (v : Value) : List Value :=
  let list : Option Value := match v with
    | .object members => members.lookup name
    | .array items => items[index]?
    | _ => none
  (list.bind (·.array?)).getD []

def groupsOf (service : Value) : List Value := listIn "rule_groups" 6 service

def calculationsOf (service : Value) : List Value := listIn "calculations" 7 service

def rulesOf (group : Value) : List Value := listIn "conditions" 1 group

/-- The rules in a group, through groups within groups. A rule with a `field` is a condition
    and has no members, whatever else stands in it; any other rule is a group. -/
inductive Inside : Value → Value → Prop
  | member {group rule : Value} : rule ∈ rulesOf group → Inside group rule
  | within {group inner rule : Value} : inner ∈ rulesOf group → inner.get? "field" = none → Inside inner rule →
      Inside group rule

/-- What can be wrong with a calculation or a rule before it is read. A name is unknown if
    its reader refuses it. -/
inductive HasDefect : Value → Defect → Prop
  | unknownKind {v : Value} {s : String} : v.get? "type" = some (.string s) →
      Refused (CalculationKind.read (.string s)) → HasDefect v (.unknownKind s)
  | unknownField {v : Value} {s : String} : v.get? "field" = some (.string s) →
      Refused (Field.read (.string s)) → HasDefect v (.unknownField s)
  | unknownOperator {v : Value} {s : String} : v.get? "operator" = some (.string s) →
      Refused (Operator.read (.string s)) → HasDefect v (.unknownOperator s)
  | noRule {v : Value} : v.isObject = false → HasDefect v (.malformed .noRule)
  | ambiguousRule {v : Value} : v.isObject = true → v.get? "field" = none → v.get? "conditions" = none →
      v.get? "logic_operator" = none → HasDefect v (.malformed .ambiguousRule)

/-- A calculation of the service has an unknown kind, or a condition an unknown field or operator. -/
inductive HasUnknownName (service : Value) : Prop
  | kind {c : Value} {s : String} : c ∈ calculationsOf service → HasDefect c (.unknownKind s) → HasUnknownName service
  | field {g c : Value} {s : String} : g ∈ groupsOf service → Inside g c → HasDefect c (.unknownField s) →
      HasUnknownName service
  | operator {g c : Value} {s : String} : g ∈ groupsOf service → Inside g c → (c.get? "field").isSome = true →
      HasDefect c (.unknownOperator s) → HasUnknownName service

theorem listIn_of_isObject {name : String} {index : Nat} {v : Value} (h : v.isObject = true) :
    listIn name index v = ((v.get? name).bind (·.array?)).getD [] := by
  cases v with
  | object members => rfl
  | _ => cases h

/-! ## Unknown names -/

theorem kind_refused_iff {s : String} :
    Refused (CalculationKind.read (.string s)) ↔ (CalculationKind.names.lookup s).isSome = false := by
  have hread : CalculationKind.read (.string s) = readVariant.find CalculationKind.names s := rfl
  rw [hread, readVariant.find]
  cases CalculationKind.names.lookup s <;> simp [Refused]

theorem field_refused_iff {s : String} : Refused (Field.read (.string s)) ↔ (Field.ofText? s).isSome = false := by
  rw [Field.read]
  cases Field.ofText? s <;> simp [Refused]

theorem operator_refused_iff {s : String} :
    Refused (Operator.read (.string s)) ↔ (Operator.ofText? s).isSome = false := by
  rw [Operator.read]
  cases Operator.ofText? s <;> simp [Refused]

theorem mem_unknownNames_iff {known : String → Bool} {name s : String} {v : Value} :
    s ∈ unknownNames known name v ↔ v.get? name = some (.string s) ∧ known s = false := by
  have htext : v.get? name >>= (·.string?) = some s ↔ v.get? name = some (.string s) := by
    cases v.get? name with
    | none => simp
    | some w => cases w <;> simp [Value.string?]
  rw [← htext, unknownNames]
  cases v.get? name >>= (·.string?) with
  | none => simp
  | some t =>
    simp only [Option.some.injEq]
    constructor
    · intro hs
      split at hs
      · cases hs
      · rename_i hknown
        obtain rfl := List.mem_singleton.mp hs
        exact ⟨rfl, Bool.eq_false_iff.mpr hknown⟩
    · rintro ⟨rfl, hknown⟩
      rw [hknown]
      exact List.mem_singleton_self t

theorem mem_kindFaults_iff {p : Place} {c : Value} {f : Fault} :
    f ∈ kindFaults p c ↔ ∃ s, f = ⟨p, .unknownKind s⟩ ∧ HasDefect c (.unknownKind s) := by
  simp only [kindFaults, List.mem_map, mem_unknownNames_iff, ← kind_refused_iff]
  constructor
  · rintro ⟨s, ⟨hs, hrefused⟩, rfl⟩
    exact ⟨s, rfl, .unknownKind hs hrefused⟩
  · rintro ⟨s, rfl, hs, hrefused⟩
    exact ⟨s, ⟨hs, hrefused⟩, rfl⟩

theorem mem_conditionFaults_iff {p : Place} {c : Value} {f : Fault} :
    f ∈ conditionFaults p c ↔ ∃ s, f = ⟨p, .unknownField s⟩ ∧ HasDefect c (.unknownField s) ∨
      f = ⟨p, .unknownOperator s⟩ ∧ HasDefect c (.unknownOperator s) := by
  simp only [conditionFaults, List.mem_append, List.mem_map, mem_unknownNames_iff, ← field_refused_iff,
    ← operator_refused_iff]
  constructor
  · rintro (⟨s, ⟨hs, hrefused⟩, rfl⟩ | ⟨s, ⟨hs, hrefused⟩, rfl⟩)
    · exact ⟨s, .inl ⟨rfl, .unknownField hs hrefused⟩⟩
    · exact ⟨s, .inr ⟨rfl, .unknownOperator hs hrefused⟩⟩
  · rintro ⟨s, ⟨rfl, hd⟩ | ⟨rfl, hd⟩⟩
    · cases hd with
      | unknownField hs hrefused => exact .inl ⟨s, ⟨hs, hrefused⟩, rfl⟩
    · cases hd with
      | unknownOperator hs hrefused => exact .inr ⟨s, ⟨hs, hrefused⟩, rfl⟩

/-! ## Faults are where they point to -/

/-- The fault points at a part of `v`, which stands at `p`, and that part has the defect. -/
def FoundIn (p : Place) (v : Value) (f : Fault) : Prop :=
  ∃ steps part, f.place = p.down steps ∧ v.follow steps = some part ∧ HasDefect part f.defect

theorem FoundIn.here {p : Place} {v : Value} {d : Defect} (h : HasDefect v d) : FoundIn p v ⟨p, d⟩ :=
  ⟨[], v, p.down_nil.symm, rfl, h⟩

/-- What is found in a part is found in the whole. -/
theorem FoundIn.below {p : Place} {part v : Value} {f : Fault} (steps : List Step) (h : FoundIn (p.down steps) part f)
    (hv : v.follow steps = some part) : FoundIn p v f := by
  obtain ⟨rest, inner, hplace, hinner, hd⟩ := h
  refine ⟨steps ++ rest, inner, by rw [hplace, Place.down_down], ?_, hd⟩
  rw [Value.follow_append, hv, Option.bind_some, hinner]

theorem found_of_mem_conditionFaults {p : Place} {c : Value} {f : Fault} (h : f ∈ conditionFaults p c) :
    FoundIn p c f := by
  obtain ⟨s, ⟨rfl, hd⟩ | ⟨rfl, hd⟩⟩ := mem_conditionFaults_iff.mp h
  · exact .here hd
  · exact .here hd

mutual

theorem found_of_mem_ruleFaults : ∀ (p : Place) (v : Value) (f : Fault), f ∈ ruleFaults p v → FoundIn p v f
  | p, .object members, f, h => by
    rw [ruleFaults] at h
    split at h
    · exact found_of_mem_conditionFaults h
    · rename_i hfield
      split at h
      · rename_i hneither
        obtain rfl := List.mem_singleton.mp h
        rw [Bool.and_eq_true, Option.isNone_iff_eq_none, Option.isNone_iff_eq_none] at hneither
        exact .here (.ambiguousRule rfl (Option.not_isSome_iff_eq_none.mp hfield) hneither.1 hneither.2)
      · obtain ⟨v, hv, hf⟩ := found_of_mem_memberFaults p members f h
        exact FoundIn.below [.field "conditions"] hf (by simp [Value.follow, Value.get?, hv])
  | p, .null, f, h | p, .bool _, f, h | p, .number _, f, h | p, .string _, f, h | p, .array _, f, h => by
    rw [ruleFaults] at h
    · obtain rfl := List.mem_singleton.mp h
      exact .here (.noRule rfl)
    · simp

theorem found_of_mem_memberFaults : ∀ (p : Place) (members : List (String × Value)) (f : Fault),
    f ∈ memberFaults p members → ∃ v, members.lookup "conditions" = some v ∧ FoundIn (p.field "conditions") v f
  | p, [], f, h => by cases h
  | p, (name, v) :: rest, f, h => by
    rw [memberFaults] at h
    rw [List.lookup_cons]
    by_cases hname : name = "conditions"
    · rw [if_pos hname, hname] at h
      exact ⟨v, by simp [hname], found_of_mem_listFaults (p.field "conditions") v f h⟩
    · rw [if_neg hname] at h
      rw [beq_false_of_ne (Ne.symm hname)]
      exact found_of_mem_memberFaults p rest f h

theorem found_of_mem_listFaults : ∀ (p : Place) (v : Value) (f : Fault), f ∈ listFaults p v → FoundIn p v f
  | p, .array items, f, h => by
    rw [listFaults] at h
    obtain ⟨j, v, hv, hf⟩ := found_of_mem_itemFaults p 0 items f h
    rw [Nat.zero_add] at hf
    exact FoundIn.below [.item j] hf (by simp [Value.follow, Value.array?, hv])
  | p, .null, f, h | p, .bool _, f, h | p, .number _, f, h | p, .string _, f, h | p, .object _, f, h => by
    cases h

theorem found_of_mem_itemFaults : ∀ (p : Place) (i : Nat) (items : List Value) (f : Fault), f ∈ itemFaults p i items →
    ∃ (j : Nat) (v : Value), items[j]? = some v ∧ FoundIn (p.item (i + j)) v f
  | p, i, [], f, h => by cases h
  | p, i, v :: rest, f, h => by
    rw [itemFaults, List.mem_append] at h
    rcases h with h | h
    · exact ⟨0, v, rfl, found_of_mem_ruleFaults (p.item i) v f h⟩
    · obtain ⟨j, w, hw, hf⟩ := found_of_mem_itemFaults p (i + 1) rest f h
      refine ⟨j + 1, w, by simpa using hw, ?_⟩
      rwa [Nat.add_right_comm, Nat.add_assoc] at hf

end

theorem mem_itemsAt_iff {p q : Place} {name : String} {v w : Value} :
    (w, q) ∈ itemsAt p name v ↔ ∃ i, v.follow [.field name, .item i] = some w ∧ q = p.down [.field name, .item i] := by
  simp only [itemsAt, Value.follow, ← Place.item_of_field]
  cases v.get? name with
  | none => simp
  | some list =>
    cases h : list.array? with
    | none => simp [h]
    | some items =>
      simp only [Option.bind_eq_bind, Option.bind_some, h, List.mem_map, Prod.exists, Prod.mk.injEq,
        List.mk_mem_zipIdx_iff_getElem?]
      constructor
      · rintro ⟨item, i, hi, rfl, rfl⟩
        exact ⟨i, by simp [hi], rfl⟩
      · rintro ⟨i, hi, rfl⟩
        exact ⟨w, i, by simpa using hi, rfl, rfl⟩

theorem found_of_mem_groupFaults {p : Place} {g : Value} {f : Fault} (h : f ∈ groupFaults p g) : FoundIn p g f := by
  unfold groupFaults at h
  split at h
  · rename_i members
    obtain ⟨v, hv, hf⟩ := found_of_mem_memberFaults p members f h
    exact FoundIn.below [.field "conditions"] hf (by simp [Value.follow, Value.get?, hv])
  · cases h

/-- A fault in the names of a service is in an item of one of its lists. -/
theorem found_of_mem_nameFaults {p : Place} {service : Value} {f : Fault} (h : f ∈ nameFaults p service) :
    ∃ name i item, service.follow [.field name, .item i] = some item ∧
      FoundIn (p.down [.field name, .item i]) item f := by
  rw [nameFaults, List.mem_append] at h
  rcases h with h | h
  · obtain ⟨⟨c, q⟩, hc, hf⟩ := List.mem_flatMap.mp h
    obtain ⟨i, hi, rfl⟩ := mem_itemsAt_iff.mp hc
    obtain ⟨s, rfl, hd⟩ := mem_kindFaults_iff.mp hf
    exact ⟨"calculations", i, c, hi, .here hd⟩
  · obtain ⟨⟨g, q⟩, hg, hf⟩ := List.mem_flatMap.mp h
    obtain ⟨i, hi, rfl⟩ := mem_itemsAt_iff.mp hg
    exact ⟨"rule_groups", i, g, hi, found_of_mem_groupFaults hf⟩

/-! ## No rule is passed over -/

theorem memberFaults_eq (p : Place) (members : List (String × Value)) :
    memberFaults p members = ((members.lookup "conditions").map (listFaults (p.field "conditions"))).getD [] := by
  induction members with
  | nil => rw [memberFaults, List.lookup_nil, Option.map_none, Option.getD_none]
  | cons m rest ih =>
    obtain ⟨name, v⟩ := m
    rw [memberFaults, ih, List.lookup_cons]
    by_cases h : name = "conditions"
    · simp [h]
    · rw [if_neg h, beq_false_of_ne (Ne.symm h)]

theorem groupFaults_eq (p : Place) {g : Value} (h : g.isObject = true) :
    groupFaults p g = itemFaults (p.field "conditions") 0 (rulesOf g) := by
  cases g with
  | object members =>
    rw [groupFaults, memberFaults_eq, rulesOf, listIn]
    cases members.lookup "conditions" with
    | none => rfl
    | some v => cases v <;> rfl
  | _ => cases h

theorem ruleFaults_of_mem {p : Place} {i : Nat} {items : List Value} (h : itemFaults p i items = []) {v : Value}
    (hv : v ∈ items) : ∃ q, ruleFaults q v = [] := by
  induction items generalizing i with
  | nil => cases hv
  | cons first rest ih =>
    rw [itemFaults, List.append_eq_nil_iff] at h
    rcases List.mem_cons.mp hv with rfl | hv
    · exact ⟨p.item i, h.1⟩
    · exact ih h.2 hv

/-- A rule that has no `field` is searched like a group. -/
theorem ruleFaults_of_group {p : Place} {v : Value} (h : ruleFaults p v = []) (hfield : v.get? "field" = none) :
    v.isObject = true ∧ groupFaults p v = [] := by
  cases v with
  | object members =>
    have hnone : members.lookup "field" = none := hfield
    rw [ruleFaults, hnone, if_neg (by simp)] at h
    split at h
    · cases h
    · exact ⟨rfl, h⟩
  | _ => simp [ruleFaults] at h

/-- In a group without faults there is none in any rule, however deep. -/
theorem ruleFaults_of_inside {g rule : Value} (h : Inside g rule) {p : Place} (hg : g.isObject = true)
    (hnil : groupFaults p g = []) : ∃ q, ruleFaults q rule = [] := by
  induction h generalizing p with
  | member hrule =>
    rw [groupFaults_eq p hg] at hnil
    exact ruleFaults_of_mem hnil hrule
  | within hinner hfield _ ih =>
    rw [groupFaults_eq p hg] at hnil
    obtain ⟨q, hq⟩ := ruleFaults_of_mem hnil hinner
    obtain ⟨hobject, hgroup⟩ := ruleFaults_of_group hq hfield
    exact ih hobject hgroup

theorem ruleFaults_of_condition (p : Place) {v : Value} (hfield : (v.get? "field").isSome = true) :
    ruleFaults p v = conditionFaults p v := by
  cases v with
  | object members =>
    have hsome : (members.lookup "field").isSome = true := hfield
    rw [ruleFaults, if_pos hsome]
  | _ => cases hfield

/-- The items of a list are looked at if the list is in an object. -/
theorem exists_mem_itemsAt {name : String} {index : Nat} {v w : Value} (p : Place) (hv : v.isObject = true)
    (h : w ∈ listIn name index v) : ∃ q, (w, q) ∈ itemsAt p name v := by
  rw [listIn_of_isObject hv] at h
  cases hl : (v.get? name).bind (·.array?) with
  | none =>
    rw [hl] at h
    cases h
  | some items =>
    rw [hl, Option.getD_some] at h
    obtain ⟨i, hi⟩ := List.mem_iff_getElem?.mp h
    obtain ⟨list, hlist, hitems⟩ := Option.bind_eq_some_iff.mp hl
    exact ⟨_, mem_itemsAt_iff.mpr ⟨i, by simp [Value.follow, hlist, hitems, hi], rfl⟩⟩

/-- In a service without faults there is none in any of its calculations and groups. -/
theorem faults_of_nameFaults {p : Place} {service : Value} (hservice : service.isObject = true)
    (hnil : nameFaults p service = []) : (∀ c ∈ calculationsOf service, ∃ q, kindFaults q c = []) ∧
      ∀ g ∈ groupsOf service, ∃ q, groupFaults q g = [] := by
  rw [nameFaults, List.append_eq_nil_iff, List.flatMap_eq_nil_iff, List.flatMap_eq_nil_iff] at hnil
  constructor
  · intro c hc
    obtain ⟨q, hq⟩ := exists_mem_itemsAt p hservice hc
    exact ⟨q, hnil.1 _ hq⟩
  · intro g hg
    obtain ⟨q, hq⟩ := exists_mem_itemsAt p hservice hg
    exact ⟨q, hnil.2 _ hq⟩

/-- A service with an unknown name has a fault before it is read. -/
theorem nameFaults_ne_nil {p : Place} {service : Value} (hservice : service.isObject = true)
    (hgroups : ∀ g ∈ groupsOf service, g.isObject = true) (h : HasUnknownName service) : nameFaults p service ≠ [] := by
  intro hnil
  obtain ⟨hkinds, hfaults⟩ := faults_of_nameFaults hservice hnil
  have hcondition : ∀ {g c : Value}, g ∈ groupsOf service → Inside g c → (c.get? "field").isSome = true →
      ∃ q, conditionFaults q c = [] := by
    intro g c hg hc hfield
    obtain ⟨_, hgroup⟩ := hfaults g hg
    obtain ⟨q, hq⟩ := ruleFaults_of_inside hc (hgroups g hg) hgroup
    exact ⟨q, by rw [← ruleFaults_of_condition q hfield, hq]⟩
  cases h with
  | kind hc hd =>
    obtain ⟨q, hq⟩ := hkinds _ hc
    exact List.ne_nil_of_mem (mem_kindFaults_iff.mpr ⟨_, rfl, hd⟩) hq
  | @field g c s hg hc hd =>
    have hfield : (c.get? "field").isSome = true := by
      cases hd with
      | unknownField hs _ => exact Option.isSome_of_eq_some hs
    obtain ⟨q, hq⟩ := hcondition hg hc hfield
    exact List.ne_nil_of_mem (mem_conditionFaults_iff.mpr ⟨_, .inl ⟨rfl, hd⟩⟩) hq
  | operator hg hc hfield hd =>
    obtain ⟨q, hq⟩ := hcondition hg hc hfield
    exact List.ne_nil_of_mem (mem_conditionFaults_iff.mpr ⟨_, .inr ⟨rfl, hd⟩⟩) hq

/-! ## The first service that is refused -/

theorem readService_eq_ok_iff {i : Nat} {v : Value} {s : Service} :
    readService i v = .ok s ↔ nameFaults (placeOf i) v = [] ∧ Service.read v = .ok s := by
  have hread : (Service.read v).mapError (fun e => Fault.mk (placeOf i) (.malformed (.unreadable e))) = .ok s ↔
      Service.read v = .ok s := by
    cases Service.read v <;> simp [Except.mapError]
  rw [readService, bind_eq_ok_iff, ← Fault.first_eq_ok_iff, hread]
  constructor
  · rintro ⟨_, hfirst, hs⟩
    exact ⟨hfirst, hs⟩
  · rintro ⟨hfirst, hs⟩
    exact ⟨(), hfirst, hs⟩

/-- A service is refused for a name, or else for what its reader says. -/
theorem readService_eq_error {i : Nat} {v : Value} {f : Fault} (h : readService i v = .error f) :
    f ∈ nameFaults (placeOf i) v ∨ ∃ e, f = ⟨placeOf i, .malformed (.unreadable e)⟩ := by
  rcases bind_eq_error_iff.mp h with hfirst | ⟨_, _, hread⟩
  · exact .inl (Fault.mem_of_first hfirst)
  · cases hr : Service.read v with
    | ok s =>
      rw [hr] at hread
      cases hread
    | error e =>
      rw [hr] at hread
      cases hread
      exact .inr ⟨e, rfl⟩

/-- The services are refused for the first of them that is. -/
theorem ofValues_of_refused {values : List Value} {i : Nat} {v : Value} {f : Fault} (hv : values[i]? = some v)
    (hearlier : ∀ j w, j < i → values[j]? = some w → ∃ s, readService j w = .ok s) (h : readService i v = .error f) :
    ofValues values = .error f := by
  refine bind_eq_error_iff.mpr (.inl (mapM_eq_error_iff.mpr
    ⟨values.zipIdx.take i, (v, i), values.zipIdx.drop (i + 1), ?_, ?_, h⟩))
  · have hi : values.zipIdx[i]? = some (v, i) := by simp [hv]
    obtain ⟨hlt, hget⟩ := List.getElem?_eq_some_iff.mp hi
    rw [← hget, ← List.drop_eq_getElem_cons hlt, List.take_append_drop]
  · rintro ⟨w, k⟩ hw
    obtain ⟨j, hj, hget⟩ := List.mem_take_iff_getElem.mp hw
    have hsome : values.zipIdx[j]? = some (w, k) := hget ▸ List.getElem?_eq_getElem _
    rw [List.getElem?_zipIdx, Nat.zero_add] at hsome
    obtain ⟨w', hw', heq⟩ := Option.map_eq_some_iff.mp hsome
    cases heq
    exact hearlier k w (by omega) hw'

/-- Services are refused for one of them as data or as what was read of it. -/
theorem ofValues_eq_error {values : List Value} {f : Fault} (h : ofValues values = .error f) :
    (∃ i v, values[i]? = some v ∧ readService i v = .error f) ∨
      ∃ (i : Nat) (s : Service), f ∈ s.faults (placeOf i) := by
  rcases bind_eq_error_iff.mp h with hread | ⟨services, -, hservices⟩
  · obtain ⟨before, ⟨v, i⟩, after, hsplit, -, hf⟩ := mapM_eq_error_iff.mp hread
    have hmem : (v, i) ∈ values.zipIdx := hsplit ▸ by simp
    exact .inl ⟨i, v, List.mk_mem_zipIdx_iff_getElem?.mp hmem, hf⟩
  · rcases bind_eq_error_iff.mp hservices with hfirst | ⟨_, _, hpure⟩
    · obtain ⟨i, s, -, hf⟩ := exists_of_mem_flatMap_zipIdx (Fault.mem_of_first hfirst)
      exact .inr ⟨i, s, hf⟩
    · cases hpure

def isUnknownName : Defect → Bool
  | .unknownKind _ | .unknownField _ | .unknownOperator _ => true
  | _ => false

/-- A service that was read has only known names. -/
theorem isUnknownName_of_mem_faults {p : Place} {s : Service} {f : Fault} (h : f ∈ s.faults p) :
    isUnknownName f.defect = false := by
  obtain ⟨_, _, -, -, hd⟩ := Service.located_of_mem_faults h
  generalize f.defect = d at hd
  cases hd <;> rfl

/-- If a service that is an object, with objects for rule groups, has an unknown name, and the services before it have
    passed, then the list is refused for something below that service. If a list is refused for an unknown name, the
    path leads through the data to where this name stands, and its reader refuses it. -/
theorem unknown_names_placed (values : List Value) :
    (∀ i service, values[i]? = some service → service.isObject = true →
      (∀ g ∈ groupsOf service, g.isObject = true) → HasUnknownName service →
      (∀ j earlier, j < i → values[j]? = some earlier →
        nameFaults (placeOf j) earlier = [] ∧ ∃ s, Service.read earlier = .ok s) →
      ∃ f step steps, ofValues values = .error f ∧ f.place = (placeOf i).down (step :: steps)) ∧
    ∀ f, ofValues values = .error f → isUnknownName f.defect = true →
      f.place.text = "services" ++ Step.path f.place.steps ∧
        ∃ part, (Value.array values).follow f.place.steps = some part ∧ HasDefect part f.defect := by
  constructor
  · intro i service hi hservice hgroups hname hearlier
    have hread : ∃ f ∈ nameFaults (placeOf i) service, readService i service = .error f := by
      cases hfaults : nameFaults (placeOf i) service with
      | nil => exact absurd hfaults (nameFaults_ne_nil hservice hgroups hname)
      | cons f rest =>
        refine ⟨f, List.mem_cons_self, ?_⟩
        rw [readService, hfaults]
        rfl
    obtain ⟨f, hf, hread⟩ := hread
    obtain ⟨name, k, item, -, steps, part, hplace, -, -⟩ := found_of_mem_nameFaults hf
    refine ⟨f, .field name, .item k :: steps, ofValues_of_refused hi ?_ hread, ?_⟩
    · intro j earlier hj hget
      obtain ⟨hnames, s, hs⟩ := hearlier j earlier hj hget
      exact ⟨s, readService_eq_ok_iff.mpr ⟨hnames, hs⟩⟩
    · rw [hplace, Place.down_down]
      rfl
  · intro f h hname
    rcases ofValues_eq_error h with ⟨i, service, hi, hread⟩ | ⟨i, s, hf⟩
    · rcases readService_eq_error hread with hf | ⟨e, rfl⟩
      · obtain ⟨name, k, item, hitem, hfound⟩ := found_of_mem_nameFaults hf
        obtain ⟨steps, part, hplace, hpart, hd⟩ := hfound.below [.field name, .item k] hitem
        rw [hplace]
        refine ⟨rfl, part, ?_, hd⟩
        have hservice : (Value.array values).follow [.item i] = some service := by
          simp [Value.follow, Value.array?, hi]
        have hsteps : ((placeOf i).down steps).steps = [.item i] ++ steps := rfl
        rw [hsteps, Value.follow_append, hservice, Option.bind_some, hpart]
      · cases hname
    · rw [isUnknownName_of_mem_faults hf] at hname
      cases hname

namespace Small

def serviceData (calculations groups : List Value) : Value :=
  .object [("calculations", .array calculations), ("customer_id", .string "c-1"), ("id", .string "cs-1"),
    ("rule_groups", .array groups), ("service_id", .string "s-1"), ("service_name", .string "Storage"),
    ("unit_price", .string "5")]

def conditionData (field : String) : Value :=
  .object [("field", .string field), ("operator", .string "eq"), ("values", .array [.string "x"])]

def groupData (rule : Value) : Value := .object [("conditions", .array [rule])]

def misnamed : List Value :=
  [serviceData [] [groupData (conditionData " carrier ")],
    serviceData [] [groupData (groupData (conditionData "color"))]]

end Small

theorem unknown_names_placed_nested :
    (∃ f step steps, ofValues Small.misnamed = .error f ∧ f.place = (placeOf 1).down (step :: steps)) ∧
      ∃ f, ofValues Small.misnamed = .error f ∧ isUnknownName f.defect = true ∧
        f.message = "services[1].rule_groups[0].conditions[0].conditions[0]: unknown field: color" ∧
        ∃ part, (Value.array Small.misnamed).follow f.place.steps = some part ∧ HasDefect part f.defect := by
  have hinside : Inside (Small.groupData (Small.groupData (Small.conditionData "color")))
      (Small.conditionData "color") :=
    .within (.head _) rfl (.member (.head _))
  have hrefused : Refused (Field.read (.string "color")) := field_refused_iff.mpr (by decide +kernel)
  have hearlier : ∀ j earlier, j < 1 → Small.misnamed[j]? = some earlier →
      nameFaults (placeOf j) earlier = [] ∧ ∃ s, Service.read earlier = .ok s := by
    intro j earlier hj hget
    obtain rfl : j = 0 := by omega
    cases hget
    exact ⟨List.isEmpty_iff.mp (by decide +kernel), _, rfl⟩
  have hplaced := (unknown_names_placed Small.misnamed).1 1 _ rfl rfl (by decide +kernel)
    (.field (.head _) hinside (.unknownField rfl hrefused)) hearlier
  have hrefusal : ofValues Small.misnamed = .error ⟨(placeOf 1).down [.field "rule_groups", .item 0,
      .field "conditions", .item 0, .field "conditions", .item 0], .unknownField "color"⟩ := rfl
  exact ⟨hplaced, _, hrefusal, rfl, by decide +kernel, ((unknown_names_placed Small.misnamed).2 _ hrefusal rfl).2⟩

end Catalog

end Tariff
