/-
  Tariff.Proofs.Rule.Json — rules are read back from their JSON form.

  A condition is told from a group by its `field`, at every depth, and no name that is
  written is unknown to a reader.
-/
import Tariff.Rule
import Tariff.Proofs.Json.Reading

namespace Tariff

open Json

/-! ## Names -/

theorem Field.ofText?_name (f : Field) : ofText? f.name = some f := by
  rcases f with f | f | _
  · cases f <;> decide +kernel
  · cases f <;> decide +kernel
  · decide +kernel

theorem Operator.ofText?_name (op : Operator) : ofText? op.name = some op := by
  cases op <;> decide +kernel

theorem Quantifier.readVariant_name (q : Quantifier) : readVariant names (.string q.name) = .ok q := by
  cases q <;> rfl

theorem Field.read_name (f : Field) : Field.read (.string f.name) = .ok f := by
  rw [read, ofText?_name]
  rfl

theorem Operator.read_name (op : Operator) : Operator.read (.string op.name) = .ok op := by
  rw [read, ofText?_name]
  rfl

/-! ## Conditions -/

variable {arrange : List (String × Value) → List (String × Value)}

namespace Condition

def fields (c : Condition) : List (String × Value) :=
  [("field", .string c.field.name), ("operator", .string c.operator.name), ("values", .array (c.values.map .string))]

theorem exists_arranged (harr : ∀ ms, (arrange ms).Perm ms) (c : Condition) :
    ∃ members, c.toJson.rearranged arrange = .object members ∧ Arranged members c.fields := by
  obtain ⟨members, hv, h⟩ := Value.exists_arranged harr (v := c.toJson) rfl (by simp)
  exact ⟨members, hv, by simpa [fields, Function.comp_def] using h⟩

theorem field_isSome_of_arranged {c : Condition} {members : List (String × Value)} (h : Arranged members c.fields) :
    (members.lookup "field").isSome = true := by
  rw [h.lookup]
  simp [fields]

theorem read_of_arranged {c : Condition} {members : List (String × Value)} (h : Arranged members c.fields) :
    read (.object members) = .ok c := by
  simp [read, h.slot, fields, List.lookup_cons, Field.read_name, Operator.read_name, h.check]

end Condition

/-! ## Groups -/

namespace Rule

theorem toJsonItems_eq_map (rules : List Rule) : toJsonItems rules = rules.map toJson := by
  induction rules with
  | nil => rfl
  | cons r rest ih => rw [toJsonItems, ih, List.map_cons]

theorem readMember_eq (members : List (String × Value)) :
    readMember members = (members.lookup "conditions").map readList := by
  induction members with
  | nil => rw [readMember, List.lookup_nil, Option.map_none]
  | cons m rest ih =>
    obtain ⟨name, v⟩ := m
    rw [readMember, ih, List.lookup_cons]
    by_cases h : name = "conditions"
    · simp [h]
    · rw [if_neg h, beq_false_of_ne (Ne.symm h)]

theorem readSecond_eq (items : List Value) : readSecond items = items[1]?.map readList := by
  cases items with
  | nil => rfl
  | cons _ rest => cases rest <;> rfl

theorem readItems_eq_mapM (items : List Value) : readItems items = items.mapM read := by
  induction items with
  | nil => rfl
  | cons v rest ih => rw [readItems, ih, List.mapM_cons]

def groupFields (q : Quantifier) (items : List Value) : List (String × Value) :=
  [("logic_operator", .string q.name), ("conditions", .array items)]

theorem exists_arranged_group (harr : ∀ ms, (arrange ms).Perm ms) (q : Quantifier) (rules : List Rule) :
    ∃ members, (group q rules).toJson.rearranged arrange = .object members ∧
      Arranged members (groupFields q (rules.map fun r => r.toJson.rearranged arrange)) := by
  obtain ⟨members, hv, h⟩ := Value.exists_arranged harr (v := (group q rules).toJson) (by rw [toJson]) (by simp)
  exact ⟨members, hv, by simpa [groupFields, toJsonItems_eq_map, Function.comp_def] using h⟩

/-- A group is read back if its members are. -/
theorem readWith_of_arranged {members : List (String × Value)} {q : Quantifier} {items : List Value} {rules : List Rule}
    (h : Arranged members (groupFields q items)) (hrules : readItems items = .ok rules) :
    RuleGroup.readWith (readMember members) (.object members) = .ok ⟨q, rules⟩ := by
  have hmember : readMember members = some (.ok rules) := by
    rw [readMember_eq, h.lookup]
    simp [groupFields, List.lookup_cons, readList, hrules]
  simp [RuleGroup.readWith, hmember, h.slot, groupFields, Quantifier.readVariant_name, h.check]

mutual

/-- A condition and a group are told from each other by what is written of them. -/
theorem read_toJson (harr : ∀ ms, (arrange ms).Perm ms) : ∀ r : Rule, read (r.toJson.rearranged arrange) = .ok r
  | .condition c => by
    obtain ⟨members, hv, h⟩ := c.exists_arranged harr
    rw [toJson, hv, read, if_pos (Condition.field_isSome_of_arranged h), Condition.read_of_arranged h]
    rfl
  | .group q rules => by
    obtain ⟨members, hv, h⟩ := exists_arranged_group harr q rules
    have hfield : ¬(members.lookup "field").isSome = true := by
      rw [h.lookup]
      simp [groupFields]
    rw [hv, read, if_neg hfield, readWith_of_arranged h (readItems_toJson harr rules)]
    rfl

theorem readItems_toJson (harr : ∀ ms, (arrange ms).Perm ms) : ∀ rules : List Rule,
    readItems (rules.map fun r => r.toJson.rearranged arrange) = .ok rules
  | [] => by rw [List.map_nil, readItems]
  | r :: rest => by
    rw [List.map_cons, readItems, read_toJson harr r, ok_bind, readItems_toJson harr rest]
    rfl

end

end Rule

theorem RuleGroup.read_toJson (harr : ∀ ms, (arrange ms).Perm ms) (g : RuleGroup) :
    read (g.toJson.rearranged arrange) = .ok g := by
  obtain ⟨members, hv, h⟩ := Rule.exists_arranged_group harr g.quantifier g.rules
  rw [toJson, toRule, hv]
  exact Rule.readWith_of_arranged h (Rule.readItems_toJson harr g.rules)

end Tariff
