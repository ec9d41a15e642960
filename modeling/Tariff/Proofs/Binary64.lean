/-
  Tariff.Proofs.Binary64 — which numbers binary64 holds, and how it writes them.

  - `ofNumeral_isSome`: every number below 2^96 has a nearest one.
  - `significand_lt_of_ofNumeral`: of 53 bits.
  - `text_chars`: a number is written as a numeral.
-/
import Mathlib.Tactic.Ring
import Mathlib.Tactic.Linarith
import Tariff.Binary64
import Tariff.Proofs.Decimal.Positive
import Tariff.Proofs.Numeral

namespace Tariff.Binary64

open Numeral

/-! ## Values -/

theorem value_pos_iff {x : Binary64} : 0 < x.value ↔ x.negative = false ∧ 0 < x.significand := by
  have hden : twoTo (-x.exponent).toNat ≠ 0 := (Nat.two_pow_pos _).ne'
  have hnum : 0 < x.significand * twoTo x.exponent.toNat ↔ 0 < x.significand :=
    Nat.mul_pos_iff_of_pos_right (Nat.two_pow_pos _)
  unfold value fraction
  rw [Rat.mkRat_pos_iff _ hden, ← hnum]
  generalize x.significand * twoTo x.exponent.toNat = n
  cases x.negative <;> simp

/-! ## Numbers in range -/

theorem log2_le_of_lt {num den : Nat} (hn : num ≠ 0) (h : num < twoTo 96 * den) :
    num.log2 ≤ den.log2 + 96 := by
  have hden : den < 2 ^ (den.log2 + 1) := Nat.lt_log2_self
  have hbound : num < 2 ^ (den.log2 + 97) := by
    calc num < twoTo 96 * den := h
      _ < 2 ^ 96 * 2 ^ (den.log2 + 1) := Nat.mul_lt_mul_of_pos_left hden (by decide)
      _ = 2 ^ (den.log2 + 97) := by rw [← Nat.pow_add]; congr 1; omega
  have := (Nat.log2_lt hn).mpr hbound
  omega

/-- A number below 2^96 is rounded on a grid that is far from the coarsest one. -/
theorem gridExponent_le {num den : Nat} (hn : num ≠ 0) (h : num < twoTo 96 * den) : gridExponent num den ≤ 44 := by
  have hlog := log2_le_of_lt hn h
  have hmin : minExponent = -1074 := rfl
  simp only [gridExponent]
  split_ifs <;> omega

theorem nearest_isSome (negative : Bool) {num den : Nat} (h : num < twoTo 96 * den) :
    (nearest negative num den).isSome = true := by
  unfold nearest
  by_cases hn : num = 0
  · rw [if_pos hn]
    rfl
  · have hgrid := gridExponent_le hn h
    have hmax : maxExponent = 971 := rfl
    simp only [if_neg hn]
    generalize gridExponent num den = e at hgrid
    split_ifs <;> simp_all <;> omega

/-- On the grid of a number at most 53 bits stand in front of the point. -/
theorem lt_on_grid (num : Nat) {den : Nat} (hd : 0 < den) :
    num * twoTo (-gridExponent num den).toNat < twoTo 53 * (den * twoTo (gridExponent num den).toNat) := by
  have hnum : num < 2 ^ (num.log2 + 1) := Nat.lt_log2_self
  have hden : 2 ^ den.log2 ≤ den := Nat.log2_self_le (by omega)
  have hfine : ∀ e : Int, (num.log2 : Int) - den.log2 - 52 ≤ e →
      num * twoTo (-e).toNat < twoTo 53 * (den * twoTo e.toNat) := by
    intro e he
    calc num * 2 ^ (-e).toNat < 2 ^ (num.log2 + 1) * 2 ^ (-e).toNat := Nat.mul_lt_mul_of_pos_right hnum (by positivity)
      _ = 2 ^ (num.log2 + 1 + (-e).toNat) := (Nat.pow_add ..).symm
      _ ≤ 2 ^ (53 + den.log2 + e.toNat) := Nat.pow_le_pow_right (by decide) (by omega)
      _ = 2 ^ 53 * (2 ^ den.log2 * 2 ^ e.toNat) := by rw [Nat.pow_add, Nat.pow_add, Nat.mul_assoc]
      _ ≤ 2 ^ 53 * (den * 2 ^ e.toNat) := Nat.mul_le_mul_left _ (Nat.mul_le_mul_right _ hden)
  unfold gridExponent
  dsimp only
  split_ifs with hroom
  · exact hroom
  · exact hfine _ (by omega)

theorem significand_lt_of_nearest {negative : Bool} {num den : Nat} {x : Binary64} (hd : 0 < den)
    (h : nearest negative num den = some x) : x.significand < twoTo 53 := by
  unfold nearest at h
  split_ifs at h with hzero
  · cases h
    show 0 < twoTo 53
    decide
  · dsimp only at h
    have hgrid := lt_on_grid num hd
    generalize gridExponent num den = e at h hgrid
    have hle : halfEven (num * twoTo (-e).toNat) (den * twoTo e.toNat) ≤ twoTo 53 := by
      have := Decimal.halfEven_le_div (num * twoTo (-e).toNat) (den * twoTo e.toNat)
      have : num * twoTo (-e).toNat / (den * twoTo e.toNat) < twoTo 53 :=
        Nat.div_lt_of_lt_mul (by rwa [Nat.mul_comm (den * _)])
      omega
    split_ifs at h with hcarry hrange hrange
    · cases h
      show twoTo 52 < twoTo 53
      decide
    · cases h
      exact Nat.lt_of_le_of_ne hle hcarry

/-- A number of `len` digits is not below the power of ten with as many. -/
theorem le_of_digitsOf {n : Nat} (hn : n ≠ 0) : tenTo ((digitsOf n).length - 1) ≤ n := by
  by_contra hlt
  have hlt : n < 10 ^ ((digitsOf n).length - 1) := Nat.not_le.mp hlt
  have hpos : 0 < (digitsOf n).length := Nat.length_toDigits_pos
  rcases Nat.eq_zero_or_pos ((digitsOf n).length - 1) with hzero | hmore
  · rw [hzero] at hlt
    exact hn (Nat.lt_one_iff.mp hlt)
  · have hle : (digitsOf n).length ≤ (digitsOf n).length - 1 :=
      (Nat.length_toDigits_le_iff (by decide) hmore).mpr hlt
    omega

theorem ofNumeral_isSome {n : Numeral}
    (h : n.digits * tenTo n.exponent.toNat < twoTo 96 * tenTo (-n.exponent).toNat) :
    (ofNumeral n).isSome = true := by
  unfold ofNumeral
  simp only
  split_ifs with hsmall hlarge
  · rfl
  · exfalso
    have hn : n.digits ≠ 0 := by
      intro hzero
      simp [hzero] at hsmall
    have hrange : twoTo 96 ≤ tenTo 29 := by decide
    have hexponent : 29 + (-n.exponent).toNat ≤ (digitsOf n.digits).length - 1 + n.exponent.toNat := by omega
    have hle : twoTo 96 * tenTo (-n.exponent).toNat ≤ n.digits * tenTo n.exponent.toNat := by
      calc twoTo 96 * tenTo (-n.exponent).toNat ≤ tenTo 29 * tenTo (-n.exponent).toNat := Nat.mul_le_mul_right _ hrange
        _ = tenTo (29 + (-n.exponent).toNat) := (Decimal.tenTo_add _ _).symm
        _ ≤ tenTo ((digitsOf n.digits).length - 1 + n.exponent.toNat) := Decimal.tenTo_le hexponent
        _ = tenTo ((digitsOf n.digits).length - 1) * tenTo n.exponent.toNat := Decimal.tenTo_add _ _
        _ ≤ n.digits * tenTo n.exponent.toNat := Nat.mul_le_mul_right _ (le_of_digitsOf hn)
    omega
  · exact nearest_isSome _ h

theorem significand_lt_of_ofNumeral {n : Numeral} {x : Binary64} (h : ofNumeral n = some x) :
    x.significand < twoTo 53 := by
  unfold ofNumeral at h
  dsimp only at h
  split_ifs at h
  · cases h
    show 0 < twoTo 53
    decide
  · exact significand_lt_of_nearest (tenTo_pos _) h

theorem significand_lt_of_ofChars {cs : List Char} {x : Binary64} (h : ofChars cs = some x) :
    x.significand < twoTo 53 := by
  obtain ⟨n, -, hn⟩ := Option.bind_eq_some_iff.mp h
  exact significand_lt_of_ofNumeral hn

/-! ## Written numbers -/

theorem digits_ne_zero_of_readsBack {x : Binary64} (hx : x.significand ≠ 0) {digits : Nat} {exponent : Int}
    (h : x.readsBack digits exponent = true) : digits ≠ 0 := by
  rintro rfl
  have hread : ofNumeral ⟨x.negative, 0, exponent⟩ = some x := by simpa [readsBack] using h
  have hzero : ofNumeral ⟨x.negative, 0, exponent⟩ = some ⟨x.negative, 0, minExponent⟩ := by simp [ofNumeral]
  rw [hzero] at hread
  exact hx (congrArg significand (Option.some.inj hread)).symm

theorem exactDigits_ne_zero {x : Binary64} (hx : x.significand ≠ 0) : x.exactDigits.1 ≠ 0 := by
  unfold exactDigits
  split_ifs
  · exact Nat.mul_ne_zero hx (Nat.pow_pos (by decide)).ne'
  · exact Nat.mul_ne_zero hx (Nat.pow_pos (by decide)).ne'

theorem shortest_ne_zero (nearest : Nat → Nat → Nat) {x : Binary64} (hx : x.significand ≠ 0) :
    (x.shortest nearest).1 ≠ 0 := by
  unfold shortest
  simp only
  cases hfind : List.find? (fun c : Nat × Int => x.readsBack c.1 c.2) ((List.range 17).flatMap fun k =>
      neighbours nearest x.exactDigits.1 x.exactDigits.2 ((digitsOf x.exactDigits.1).length - (k + 1))) with
  | none => exact exactDigits_ne_zero hx
  | some c =>
    have hback : x.readsBack c.1 c.2 = true :=
      List.find?_some (p := fun c : Nat × Int => x.readsBack c.1 c.2) hfind
    exact digits_ne_zero_of_readsBack hx hback

theorem dropZeros_subset {ds : List Char} {c : Char} (h : c ∈ (dropZeros ds).1) : c ∈ ds := by
  have hrev : c ∈ ds.reverse.dropWhile (· == '0') := List.mem_reverse.mp h
  exact List.mem_reverse.mp ((List.dropWhile_sublist _).subset hrev)

theorem dropZeros_ne_nil {ds : List Char} (h : digitsValue ds ≠ 0) : (dropZeros ds).1 ≠ [] := by
  intro hnil
  have hzeros : ∀ c ∈ ds, c = '0' := by
    intro c hc
    have hdrop := List.dropWhile_eq_nil_iff.mp (List.reverse_eq_nil_iff.mp hnil)
    exact beq_iff_eq.mp (hdrop c (List.mem_reverse.mpr hc))
  rw [List.eq_replicate_of_mem hzeros] at h
  exact h Nat.ofDigitChars_replicate_zero

theorem isDigit_of_mem_zero {c : Char} (h : c ∈ ['0']) : isDigit c = true := by
  rw [List.mem_singleton.mp h]
  rfl

/-- The significant digits are digits, and there is one. -/
theorem significantDigits_digits (nearest : Nat → Nat → Nat) (x : Binary64) :
    (x.significantDigits nearest).1 ≠ [] ∧ ∀ c ∈ (x.significantDigits nearest).1, isDigit c = true := by
  unfold significantDigits
  split_ifs with hx
  · exact ⟨List.cons_ne_nil _ _, fun c => isDigit_of_mem_zero⟩
  · constructor
    · refine dropZeros_ne_nil ?_
      rw [digitsValue_digitsOf]
      exact shortest_ne_zero nearest hx
    · intro c hc
      exact isDigit_of_mem_digitsOf (dropZeros_subset hc)

theorem placePoint_digits {ds : List Char} (h : ∀ c ∈ ds, isDigit c = true) (exponent : Int) :
    (∀ c ∈ (placePoint ds exponent).1, isDigit c = true) ∧ ∀ c ∈ (placePoint ds exponent).2, isDigit c = true := by
  have hzeros : ∀ n, ∀ c ∈ List.replicate n '0', isDigit c = true := by
    intro n c hc
    rw [List.eq_of_mem_replicate hc]
    rfl
  have hpadded : ∀ n, ∀ c ∈ List.replicate n '0' ++ ds, isDigit c = true := fun n =>
    List.forall_mem_append.mpr ⟨hzeros n, h⟩
  unfold placePoint
  simp only
  split_ifs
  · exact ⟨List.forall_mem_append.mpr ⟨h, hzeros _⟩, by simp⟩
  · exact ⟨fun c hc => h c (List.mem_of_mem_take hc), fun c hc => h c (List.mem_of_mem_drop hc)⟩
  · exact ⟨fun c => isDigit_of_mem_zero, hpadded _⟩

def signOf (negative : Bool) : Option Char := if negative then some '-' else none

theorem isSign_signOf (negative : Bool) : ∀ c ∈ signOf negative, isSign c = true := by
  cases negative <;> simp [signOf, isSign]

theorem signed_chars (negative : Bool) {whole : List Char} {fraction : Option (List Char)}
    {exponent : Option (Option Char × List Char)} (hv : Parts.Valid ⟨signOf negative, whole, fraction, exponent⟩) :
    ∃ p, Parts.Valid p ∧
      (signed negative (whole ++ fractionChars fraction ++ exponentChars 'e' exponent)).toList = p.chars 'e' := by
  refine ⟨_, hv, ?_⟩
  rw [signed, String.toList_ofList, Parts.chars, Parts.body]
  cases negative <;> rfl

theorem placed_chars (negative : Bool) {whole fraction : List Char} (hw : ∀ c ∈ whole, isDigit c = true)
    (hf : ∀ c ∈ fraction, isDigit c = true) :
    ∃ p, Parts.Valid p ∧
      (signed negative (whole ++ '.' :: (if fraction.isEmpty then ['0'] else fraction))).toList = p.chars 'e' := by
  have hdigits : ∀ c ∈ (if fraction.isEmpty then ['0'] else fraction), isDigit c = true := by
    split_ifs
    · exact fun c => isDigit_of_mem_zero
    · exact hf
  have hne : (if fraction.isEmpty then ['0'] else fraction) ≠ [] := by
    cases fraction <;> simp
  generalize (if fraction.isEmpty then ['0'] else fraction) = ds at hdigits hne
  have hformed : Parts.Formed ⟨signOf negative, whole, some ds, none⟩ := by
    refine ⟨isSign_signOf negative, hw, ?_, by simp, by simp⟩
    rintro ds ⟨⟩
    exact hdigits
  have hchars := signed_chars negative ⟨hformed, by simp [hne], by simp⟩
  simpa [fractionChars, exponentChars] using hchars

theorem scientific_chars (negative : Bool) {d : Char} {rest : List Char} (hds : ∀ c ∈ d :: rest, isDigit c = true)
    {sign : Char} (hs : isSign sign = true) (n : Nat) :
    ∃ p, Parts.Valid p ∧
      (signed negative ((match d :: rest with
        | [] => []
        | [d] => [d]
        | d :: rest => d :: '.' :: rest) ++ ['e', sign] ++ digitsOf n)).toList = p.chars 'e' := by
  obtain ⟨hd, hrest⟩ := List.forall_mem_cons.mp hds
  have hwhole : ∀ c ∈ [d], isDigit c = true := by simpa using hd
  have hexponent : ∀ fraction : Option (List Char), (∀ ds ∈ fraction, ∀ c ∈ ds, isDigit c = true) →
      Parts.Valid ⟨signOf negative, [d], fraction, some (some sign, digitsOf n)⟩ := by
    intro fraction hf
    refine ⟨⟨isSign_signOf negative, hwhole, hf, ?_, ?_⟩, by simp, ?_⟩
    · rintro e ⟨⟩ c ⟨⟩
      exact hs
    · rintro e ⟨⟩ c hc
      exact isDigit_of_mem_digitsOf hc
    · rintro e ⟨⟩
      exact digitsOf_ne_nil n
  cases rest with
  | nil =>
    have hchars := signed_chars negative (hexponent none (by simp))
    simpa [fractionChars, exponentChars] using hchars
  | cons c rest =>
    have hchars := signed_chars negative (hexponent (some (c :: rest)) (by rintro ds ⟨⟩; exact hrest))
    simpa [fractionChars, exponentChars] using hchars

/-- A number is written as a numeral. -/
theorem text_chars (x : Binary64) : ∃ p, Parts.Valid p ∧ x.text.toList = p.chars 'e' := by
  obtain ⟨hne, hds⟩ := significantDigits_digits halfEven x
  unfold text
  generalize x.significantDigits halfEven = s at hne hds
  obtain ⟨ds, exponent⟩ := s
  simp only at hne hds ⊢
  by_cases hplaced : (decide (-5 ≤ exponent + ds.length - 1) && decide (exponent + ds.length - 1 ≤ 15)) = true
  · obtain ⟨hw, hf⟩ := placePoint_digits hds exponent
    rw [if_pos hplaced]
    exact placed_chars x.negative hw hf
  · obtain ⟨d, rest, rfl⟩ := List.exists_cons_of_ne_nil hne
    rw [if_neg hplaced]
    split_ifs
    · exact scientific_chars x.negative hds rfl _
    · exact scientific_chars x.negative hds rfl _

end Tariff.Binary64
