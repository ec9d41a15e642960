/-
  Tariff.Proofs.Rule.Containment — `contains` and what stands in a text as it is.

  `contains` compares lower case with lower case. A value that stands in a text stands in it
  in lower case too, unless the value has an open sigma: one that is lower-cased by what
  stands around it. So a rule with `endswith` may hold where the same rule with `contains`
  does not (`final_sigma_not_covered`).
  - `covers_iff`: for which values `contains` covers the exact comparisons.
-/
import Tariff.Proofs.Rule.Comparison
import Tariff.Proofs.Text.Casing

namespace Tariff

theorem Text.occursIn_iff {needle cs : List Char} : occursIn needle cs = true ↔ needle <:+: cs := by
  induction cs with
  | nil => rw [occursIn, List.isEmpty_iff, List.infix_nil]
  | cons c cs ih => rw [occursIn, Bool.or_eq_true, List.isPrefixOf_iff_prefix, ih, List.infix_cons_iff]

namespace Condition

variable {o : Order} {f : TextField} {t v : String} {values : List String}

theorem holds_text (ht : o.text f = some t) (operator : Operator) (hv : values ≠ []) :
    holds ⟨.text f, operator, values⟩ o = textMatches t operator values := by
  rw [holds_of_ne_nil hv, Order.value_text ht]
  rfl

theorem containsAny_iff {actual : String} :
    containsAny actual values = true ↔ ∃ v ∈ values, Text.lowerChars v.toList <:+: Text.lowerChars actual.toList := by
  simp only [containsAny, List.any_eq_true, Text.occursIn_iff, Text.lowercase_eq]

def exactOperators : List Operator := [.eq, .isIn, .startsWith, .endsWith]

/-- With an exact comparison the value stands in the text. -/
theorem infix_of_exact {operator : Operator} (ho : operator ∈ exactOperators) (h : textMatches t operator [v] = true) :
    v.toList <:+: t.toList := by
  simp only [exactOperators, List.mem_cons, List.not_mem_nil, or_false] at ho
  rcases ho with rfl | rfl | rfl | rfl
  · obtain rfl : v = t := by simpa [textMatches] using h
    exact List.infix_refl _
  · obtain rfl : t = v := by simpa [textMatches] using h
    exact List.infix_refl _
  · have hprefix : v.toList <+: t.toList := by simpa [textMatches] using h
    exact hprefix.isInfix
  · have hsuffix : v.toList <:+ t.toList := by simpa [textMatches] using h
    exact hsuffix.isInfix

/-- `contains` covers what stands in a text as it is. -/
structure Covers (v : String) : Prop where
  verbatim : ∀ (o : Order) (f : TextField) (t : String) (values : List String), o.text f = some t → v ∈ values →
    v.toList <:+: t.toList →
      holds ⟨.text f, .contains, values⟩ o = true ∧ holds ⟨.text f, .notContains, values⟩ o = false
  exact : ∀ (o : Order) (f : TextField) (t : String), o.text f = some t → ∀ operator ∈ exactOperators,
    holds ⟨.text f, operator, [v]⟩ o = true → holds ⟨.text f, .contains, [v]⟩ o = true

theorem covers_of_closed (h : ¬Text.OpenSigma v.toList) : Covers v := by
  have verbatim : ∀ (o : Order) (f : TextField) (t : String) (values : List String), o.text f = some t → v ∈ values →
      v.toList <:+: t.toList →
        holds ⟨.text f, .contains, values⟩ o = true ∧ holds ⟨.text f, .notContains, values⟩ o = false := by
    intro o f t values ht hv hin
    have hcontains : containsAny t values = true := containsAny_iff.mpr ⟨v, hv, Text.infix_of_closed h hin⟩
    have hne : values ≠ [] := List.ne_nil_of_mem hv
    rw [holds_text ht _ hne, holds_text ht _ hne]
    exact ⟨hcontains, by rw [textMatches, hcontains]; rfl⟩
  refine ⟨verbatim, ?_⟩
  intro o f t ht operator ho hholds
  rw [holds_text ht _ (by simp)] at hholds
  exact (verbatim o f t [v] ht (by simp) (infix_of_exact ho hholds)).1

def carriedBy (carrier : String) : Order :=
  (Order.new "o-1" "c-1" ⟨2024, 7, 8, by decide⟩).withText (.text .carrier) carrier

theorem closed_of_covers (h : Covers v) : ¬Text.OpenSigma v.toList := by
  refine Text.closed_iff.mpr fun text hin => ?_
  have ht : (carriedBy (String.ofList text)).text .carrier = some (String.ofList text) := rfl
  have hholds := (h.verbatim _ .carrier _ [v] ht (by simp) (by rwa [String.toList_ofList])).1
  rw [holds_text ht _ (by simp)] at hholds
  simpa using containsAny_iff.mp hholds

/-- `contains` covers what stands in a text as it is, if and only if the value has no open sigma; equality it always
    covers. -/
theorem covers_iff (v : String) :
    (Covers v ↔ ¬Text.OpenSigma v.toList) ∧
      ∀ (o : Order) (f : TextField) (t : String), o.text f = some t → ∀ operator ∈ [Operator.eq, .isIn],
        holds ⟨.text f, operator, [v]⟩ o = true → holds ⟨.text f, .contains, [v]⟩ o = true := by
  refine ⟨⟨closed_of_covers, covers_of_closed⟩, ?_⟩
  intro o f t ht operator ho hholds
  rw [holds_text ht _ (by simp)] at hholds ⊢
  obtain rfl : v = t := by
    simp only [List.mem_cons, List.not_mem_nil, or_false] at ho
    rcases ho with rfl | rfl
    · simpa [textMatches] using hholds
    · simpa [textMatches, eq_comm] using hholds
  exact containsAny_iff.mpr ⟨v, by simp, List.infix_refl _⟩

/-- With a blank behind it a sigma has ended its word, and text that is nothing but a sigma contains it. -/
theorem covers_ended_word :
    Covers "ΟΔΟΣ 5" ∧ holds ⟨.text .carrier, .contains, ["Σ"]⟩ (carriedBy "Σ") = true := by
  refine ⟨(covers_iff "ΟΔΟΣ 5").1.mpr (by decide +kernel), ?_⟩
  exact (covers_iff "Σ").2 (carriedBy "Σ") .carrier "Σ" rfl .eq (by decide) (by decide +kernel)

/-- The text ends with the value, and does not contain it: its last letter becomes `ς`, and the value `σ`. -/
theorem final_sigma_not_covered :
    holds ⟨.text .carrier, .endsWith, ["Σ"]⟩ (carriedBy "ΟΔΟΣ") = true ∧
      holds ⟨.text .carrier, .contains, ["Σ"]⟩ (carriedBy "ΟΔΟΣ") = false ∧
      holds ⟨.text .carrier, .notContains, ["Σ"]⟩ (carriedBy "ΟΔΟΣ") = true ∧ ¬Covers "Σ" := by
  have hends : holds ⟨.text .carrier, .endsWith, ["Σ"]⟩ (carriedBy "ΟΔΟΣ") = true := by decide +kernel
  have hcontains : holds ⟨.text .carrier, .contains, ["Σ"]⟩ (carriedBy "ΟΔΟΣ") = false := by decide +kernel
  refine ⟨hends, hcontains, by decide +kernel, ?_⟩
  intro h
  have hcovered := h.exact (carriedBy "ΟΔΟΣ") .carrier "ΟΔΟΣ" rfl .endsWith (by decide) hends
  rw [hcontains] at hcovered
  cases hcovered

end Condition

end Tariff
