/-
  Tariff.Proofs.Service.Json — services are read back from their JSON form.

  A decimal is written as a text that says all of it but the sign of a zero, which its
  reader drops; so a service is read back without such signs.
  - `Service.read_toJson`: a service, its rules and its calculations.
-/
import Tariff.Service
import Tariff.Proofs.Decimal.Written
import Tariff.Proofs.Rule.Json

namespace Tariff

open Json

/-! ## Without signs of zeros -/

def TierRange.unsignZeros (r : TierRange) : TierRange :=
  ⟨r.min.unsignZero, r.max.unsignZero, r.multiplier.unsignZero⟩

def TierTable.unsignZeros (t : TierTable) : TierTable := { t with ranges := t.ranges.map (·.unsignZeros) }

def Calculation.unsignZeros (c : Calculation) : Calculation :=
  { c with value := c.value.unsignZero, tiers := c.tiers.map (·.unsignZeros) }

def Service.unsignZeros (s : Service) : Service :=
  { s with unitPrice := s.unitPrice.unsignZero, calculations := s.calculations.map (·.unsignZeros) }

def TierRange.decimals (r : TierRange) : List Decimal := [r.min, r.max, r.multiplier]

def TierTable.decimals (t : TierTable) : List Decimal := t.ranges.flatMap (·.decimals)

def Calculation.decimals (c : Calculation) : List Decimal := c.value :: c.tiers.toList.flatMap (·.decimals)

def Service.decimals (s : Service) : List Decimal := s.unitPrice :: s.calculations.flatMap (·.decimals)

/-- Nothing changes where no zero has a sign. -/
theorem TierTable.unsignZeros_eq_self {t : TierTable} (h : ∀ d ∈ t.decimals, d.unsignZero = d) :
    t.unsignZeros = t := by
  have hrange : ∀ r ∈ t.ranges, r.unsignZeros = r := by
    intro r hr
    have hd : ∀ d ∈ r.decimals, d.unsignZero = d := fun d hd => h d (List.mem_flatMap.mpr ⟨r, hr, hd⟩)
    simp [TierRange.decimals] at hd
    simp [TierRange.unsignZeros, hd]
  rw [unsignZeros, List.map_congr_left hrange, List.map_id']

theorem Calculation.unsignZeros_eq_self {c : Calculation} (h : ∀ d ∈ c.decimals, d.unsignZero = d) :
    c.unsignZeros = c := by
  obtain ⟨hvalue, htiers⟩ := List.forall_mem_cons.mp h
  have htable : c.tiers.map (·.unsignZeros) = c.tiers := by
    cases ht : c.tiers with
    | none => rfl
    | some t =>
      rw [ht, Option.toList_some, List.flatMap_singleton] at htiers
      rw [Option.map_some, TierTable.unsignZeros_eq_self htiers]
  rw [unsignZeros, hvalue, htable]

theorem Service.unsignZeros_eq_self {s : Service} (h : ∀ d ∈ s.decimals, d.unsignZero = d) : s.unsignZeros = s := by
  obtain ⟨hprice, hcalculations⟩ := List.forall_mem_cons.mp h
  have hcalculation : ∀ c ∈ s.calculations, c.unsignZeros = c := by
    intro c hc
    exact Calculation.unsignZeros_eq_self fun d hd => hcalculations d (List.mem_flatMap.mpr ⟨c, hc, hd⟩)
  rw [unsignZeros, hprice, List.map_congr_left hcalculation, List.map_id']

/-! ## Reading -/

theorem readDecimal_text (d : Decimal) : readDecimal (.string d.text) = .ok d.unsignZero := by
  rw [readDecimal, Decimal.ofText_text]
  rfl

theorem CalculationKind.read_name (k : CalculationKind) : read (.string k.name) = .ok k := by
  cases k <;> rfl

variable {arrange : List (String × Value) → List (String × Value)}

theorem TierRange.read_toJson (harr : ∀ ms, (arrange ms).Perm ms) (r : TierRange) :
    read (r.toJson.rearranged arrange) = .ok r.unsignZeros := by
  obtain ⟨members, hv, h⟩ := Value.exists_arranged harr (v := r.toJson) rfl (by simp)
  rw [hv]
  simp [read, h.slot, List.lookup_cons, readDecimal_text, h.check, unsignZeros]

theorem TierTable.read_toJson (harr : ∀ ms, (arrange ms).Perm ms) (t : TierTable) :
    read (t.toJson.rearranged arrange) = .ok t.unsignZeros := by
  obtain ⟨members, hv, h⟩ := Value.exists_arranged harr (v := t.toJson) rfl (by simp)
  have hranges : readList TierRange.read (.array (t.ranges.map fun r => r.toJson.rearranged arrange)) =
      .ok (t.ranges.map (·.unsignZeros)) :=
    readList_map fun r _ => r.read_toJson harr
  rw [hv]
  simp [read, h.slot, List.lookup_cons, Function.comp_def, hranges, h.check, unsignZeros]

/-- A table that may be missing. -/
theorem readOption_tiers (harr : ∀ ms, (arrange ms).Perm ms) (tiers : Option TierTable) :
    readOption TierTable.read (((tiers.map TierTable.toJson).getD .null).rearranged arrange) =
      .ok (tiers.map (·.unsignZeros)) := by
  cases tiers with
  | none => rfl
  | some t =>
    obtain ⟨members, hv, -⟩ := Value.exists_arranged harr (v := t.toJson) rfl (by simp)
    have hread := t.read_toJson harr
    rw [hv] at hread
    rw [Option.map_some, Option.getD_some, hv, readOption, hread]
    · rfl
    · simp

theorem Calculation.read_toJson (harr : ∀ ms, (arrange ms).Perm ms) (c : Calculation) :
    read (c.toJson.rearranged arrange) = .ok c.unsignZeros := by
  obtain ⟨members, hv, h⟩ := Value.exists_arranged harr (v := c.toJson) rfl (by simp)
  rw [hv]
  simp [read, h.slot, List.lookup_cons, Function.comp_def, CalculationKind.read_name, readDecimal_text,
    readOption_tiers harr, h.check, unsignZeros]

theorem Service.read_toJson (harr : ∀ ms, (arrange ms).Perm ms) (s : Service) :
    read (s.toJson.rearranged arrange) = .ok s.unsignZeros := by
  obtain ⟨members, hv, h⟩ := Value.exists_arranged harr (v := s.toJson) rfl (by simp)
  have hgroups : readList RuleGroup.read (.array (s.ruleGroups.map fun g => g.toJson.rearranged arrange)) =
      .ok s.ruleGroups :=
    readList_map_self fun g _ => g.read_toJson harr
  have hcalculations : readList Calculation.read
      (.array (s.calculations.map fun c => c.toJson.rearranged arrange)) = .ok (s.calculations.map (·.unsignZeros)) :=
    readList_map fun c _ => c.read_toJson harr
  rw [hv]
  simp [read, h.slot, List.lookup_cons, Function.comp_def, readText, readFlag, readDecimal_text, hgroups, hcalculations,
    h.check, unsignZeros]

end Tariff
