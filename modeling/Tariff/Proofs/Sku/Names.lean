/-
  Tariff.Proofs.Sku.Names — canonical SKUs are stable names.

  A SKU that a ledger has a quantity for can be given back to whatever takes a SKU. It is its
  own canonical form, the ledger mentions it, a rule finds it, and as a set it is that SKU
  alone. A tier table that excludes all of them has no cases to count.
  - `settled_canonical` / `canonical_of_settled`: canonical texts, and that they stay as they are.
  - `named_of_mem_names`: each name, on its own.
  - `names_stable`
-/
import Tariff.Charge
import Tariff.Proofs.Rule.Comparison
import Tariff.Proofs.Sku.Lines
import Tariff.Proofs.Sku.Merging
import Tariff.Proofs.Sku.Spelling
import Tariff.Proofs.Text.Upper

namespace Tariff.Sku

/-! ## Canonical texts -/

/-- Nothing in the text is left out or changed by the canonical form. -/
def Settled (cs : List Char) : Prop := ∀ c ∈ cs, isFiller c = false ∧ Text.upper c = [c]

theorem mem_separators_of_isFiller {c : Char} (h : isFiller c = true) : c.toNat ∈ Text.separators := by
  rw [isFiller, Bool.or_eq_true, beq_iff_eq] at h
  rcases h with hblank | rfl
  · simp only [Text.isBlank, Bool.or_eq_true, Bool.and_eq_true, decide_eq_true_eq, beq_iff_eq] at hblank
    simp only [Text.separators, List.mem_append, List.mem_range'_1, List.mem_cons, List.not_mem_nil, or_false]
    omega
  · decide

theorem settled_canonical (s : String) : Settled (canonical s).toList := by
  intro d hd
  rw [canonical, String.toList_ofList] at hd
  obtain ⟨c, hc, hupper⟩ := List.mem_flatMap.mp hd
  refine ⟨Bool.eq_false_iff.mpr fun hfiller => ?_, Text.upper_of_mem_upper hupper⟩
  -- a filler comes from itself, and fillers were left out
  have hself := Text.eq_of_mem_upper_of_separator hupper (mem_separators_of_isFiller hfiller)
  have hkept := (List.mem_filter.mp hc).2
  rw [← hself, hfiller] at hkept
  cases hkept

theorem canonical_of_settled {s : String} (h : Settled s.toList) : canonical s = s := by
  have hkept : s.toList.filter (!isFiller ·) = s.toList := by
    refine List.filter_eq_self.mpr fun c hc => ?_
    rw [(h c hc).1, Bool.not_false]
  have hupper : s.toList.flatMap Text.upper = s.toList.flatMap ([·]) :=
    List.flatMap_congr fun c hc => (h c hc).2
  rw [canonical, hkept, hupper, List.flatMap_singleton', String.ofList_toList]

theorem canonical_canonical (s : String) : canonical (canonical s) = canonical s :=
  canonical_of_settled (settled_canonical s)

theorem names_setOf_singleton {sku : String} (h : canonical sku = sku) (hne : sku ≠ "") : (setOf [sku]).names = [sku] := by
  rw [setOf, List.map_singleton, h, List.filter_cons_of_pos (by simpa using hne)]
  rfl

namespace Ledger

variable {l : Ledger} {sku : String}

/-! ## The SKUs of a ledger -/

/-- A name of the ledger, and what it stands for when it is given back. -/
structure Named (l : Ledger) (sku : String) : Prop where
  ne : sku ≠ ""
  bare : ∀ c ∈ sku.toList, Text.isBlank c = false ∧ c ≠ '-'
  canonical : canonical sku = sku
  mentions : l.mentions sku = true
  setOf : (setOf [sku]).names = [sku]

theorem named_of_mem_entries {P : Quantity → Prop} {e : Entry} (hproper : e.Proper P) (he : e ∈ l.entries) :
    l.Named e.sku := by
  have hcanonical : Sku.canonical e.sku = e.sku := by rw [hproper.sku, canonical_canonical]
  refine ⟨hproper.sku_ne, ?_, hcanonical, ?_, names_setOf_singleton hcanonical hproper.sku_ne⟩
  · intro c hc
    rw [hproper.sku] at hc
    simpa [isFiller] using (settled_canonical e.raw c hc).1
  · simp only [mentions, hcanonical, Bool.and_eq_true, decide_eq_true_eq, List.any_eq_true, Bool.or_eq_true]
    exact ⟨hproper.sku_ne, e, he, .inl ⟨hproper.sku_ne, beq_self_eq_true _⟩⟩

theorem named_of_mem_names {v : Json.Value} (h : sku ∈ (ofJson v).quantities.names) : (ofJson v).Named sku := by
  obtain ⟨e, he, rfl⟩ := mem_names_quantities.mp h
  exact named_of_mem_entries (positive_ofJson v e he) he

/-- A rule that asks for the SKU holds. -/
theorem holds_contains {v : Json.Value} (h : (ofJson v).mentions sku = true) {o : Order} (ho : o.skus = some v) :
    Condition.holds ⟨.skus, .contains, [sku]⟩ o = true := by
  have hnull : v ≠ .null := by
    rintro rfl
    simp [ofJson, ofContainer, mentions, empty] at h
  rw [Condition.holds_of_ne_nil (List.cons_ne_nil _ _), Order.value_skus ho hnull]
  simpa [Condition.valueMatches, Condition.skusMatch] using h

/-! ## All of them excluded -/

theorem caseSummary_of_all_excluded {excluded : Table Unit} (hne : l.entries ≠ [])
    (h : ∀ e ∈ l.entries, excluded.contains e.sku = true) : l.caseSummary excluded = .ok ⟨.zero, true⟩ := by
  have hcounted : l.counted excluded = [] := by
    refine List.filter_eq_nil_iff.mpr fun e he => ?_
    rw [h e he]
    decide
  have hempty : l.isEmpty = false := List.isEmpty_eq_false_iff.mpr hne
  refine caseSummary_eq_ok_iff.mpr ⟨?_, ?_⟩
  · rw [caseDecimals, countedCases, hcounted]
    rfl
  · rw [hcounted, hempty]
    rfl

theorem contains_setOf_names {v : Json.Value} {e : Entry} (he : e ∈ (ofJson v).entries) :
    (setOf (ofJson v).quantities.names).contains e.sku = true := by
  have hname : e.sku ∈ (ofJson v).quantities.names := mem_names_quantities.mpr ⟨e, he, rfl⟩
  have hnamed := named_of_mem_names hname
  exact (Table.mem_names_iff _ _).mp (mem_names_setOf.mpr ⟨hnamed.ne, e.sku, hname, hnamed.canonical⟩)

theorem multiplier_of_excludedOnly {t : TierTable} {total : Decimal} (h : t.summary l = .ok ⟨total, true⟩) :
    t.multiplier l = .ok none := by
  rw [TierTable.multiplier, h]
  rfl

/-- The canonical form of a SKU is its own, so the SKUs of a payload are names that everything reads in the same way;
    with all of them excluded there is no tier. -/
theorem names_stable :
    (∀ s, canonical (canonical s) = canonical s) ∧
      ∀ v : Json.Value,
        (∀ sku ∈ (ofJson v).quantities.names, (ofJson v).Named sku ∧
          ∀ o : Order, o.skus = some v → Condition.holds ⟨.skus, .contains, [sku]⟩ o = true) ∧
        ((ofJson v).entries ≠ [] →
          (ofJson v).caseSummary (setOf (ofJson v).quantities.names) = .ok ⟨.zero, true⟩ ∧
          ∀ ranges, TierTable.multiplier ⟨ranges, (ofJson v).quantities.names⟩ (ofJson v) = .ok none) := by
  refine ⟨canonical_canonical, fun v => ⟨?_, ?_⟩⟩
  · intro sku hsku
    have hnamed := named_of_mem_names hsku
    exact ⟨hnamed, fun o ho => holds_contains hnamed.mentions ho⟩
  · intro hne
    have hsummary := caseSummary_of_all_excluded hne fun e he => contains_setOf_names he
    exact ⟨hsummary, fun ranges => multiplier_of_excludedOnly hsummary⟩

namespace Small

def sharp : Json.Value := .object [("ß-1", .ofNat 2), ("ss 1", .ofNat 3), ("b", .object [("cases", .ofNat 4)])]

def sharpOrder : Order := (Order.new "o-1" "c-1" ⟨2024, 8, 13, by decide⟩).withSkus sharp

end Small

/-- Both lines are under one name, which the ledger and a rule know though none of them is spelled so. -/
theorem names_stable_sharp :
    "SS1" ∈ (ofJson Small.sharp).quantities.names ∧ (ofJson Small.sharp).Named "SS1" ∧
      Condition.holds ⟨.skus, .contains, ["SS1"]⟩ Small.sharpOrder = true ∧ (ofJson Small.sharp).entries ≠ [] ∧
      TierTable.multiplier ⟨[⟨.zero, .zero, .zero⟩], (ofJson Small.sharp).quantities.names⟩ (ofJson Small.sharp) =
        .ok none := by
  have hname : "SS1" ∈ (ofJson Small.sharp).quantities.names := by decide +kernel
  have hentries : (ofJson Small.sharp).entries ≠ [] := by decide +kernel
  obtain ⟨hnamed, hholds⟩ := (names_stable.2 Small.sharp).1 _ hname
  exact ⟨hname, hnamed, hholds Small.sharpOrder rfl, hentries, ((names_stable.2 Small.sharp).2 hentries).2 _⟩

end Ledger

end Tariff.Sku
