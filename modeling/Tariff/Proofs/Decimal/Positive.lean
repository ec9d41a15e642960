/-
  Tariff.Proofs.Decimal.Positive — sums of positive decimals, however they round.

  Giving up places of a number that is too large for 96 bits leaves a large number, so a
  sum of positive decimals is positive. It never has more places than its operands.
  - `add_positive`: one sum.
  - `sum_positive`: a list with at least one of them.
-/
import Tariff.Proofs.Decimal.Exact

namespace Tariff.Decimal

structure Positive (places : Nat) (d : Decimal) : Prop where
  pos : 0 < d.value
  scale_le : d.scale ≤ places

theorem value_pos_iff (d : Decimal) : 0 < d.value ↔ d.negative = false ∧ 0 < d.coefficient := by
  have hp := tenTo_cast_pos d.scale
  rw [value_eq, div_pos_iff_of_pos_right hp, Int.cast_pos]
  unfold signed
  cases d.negative with
  | false => simp
  | true =>
    simp only [if_true, Bool.true_eq_false, false_and, iff_false]
    omega

theorem not_isZero_of_pos {d : Decimal} (h : 0 < d.value) : ¬d.isZero = true := by
  intro hz
  rw [value_of_isZero hz] at h
  exact lt_irrefl 0 h

/-! ## Giving up places -/

theorem div_le_halfEven (num den : Nat) : num / den ≤ halfEven num den := by
  simp only [halfEven]
  split_ifs <;> omega

theorem halfEven_le_div (num den : Nat) : halfEven num den ≤ num / den + 1 := by
  simp only [halfEven]
  split_ifs <;> omega

/-- What is too large at some places is not rounded to nothing without one of them. -/
theorem halfEven_pos_of_large {n dropped : Nat} (h : twoTo 96 ≤ halfEven n (tenTo dropped)) :
    0 < halfEven n (tenTo (dropped + 1)) := by
  have hp := tenTo_pos dropped
  have hten : tenTo (dropped + 1) = tenTo dropped * 10 := tenTo_add dropped 1
  have hlarge : 10 ≤ n / tenTo dropped := by
    have hdiv := halfEven_le_div n (tenTo dropped)
    have hmax : 11 ≤ twoTo 96 := by decide
    omega
  have hn : tenTo (dropped + 1) ≤ n := by
    have := (Nat.le_div_iff_mul_le hp).mp hlarge
    omega
  have hdiv : 1 ≤ n / tenTo (dropped + 1) := Nat.div_pos hn (tenTo_pos _)
  exact Nat.lt_of_lt_of_le hdiv (div_le_halfEven _ _)

theorem ofParts_eq_some {negative : Bool} {coefficient scale : Nat} {d : Decimal}
    (h : ofParts negative coefficient scale = some d) :
    d.negative = negative ∧ d.coefficient = coefficient ∧ d.scale = scale := by
  unfold ofParts at h
  split at h
  · cases h
    exact ⟨rfl, rfl, rfl⟩
  · cases h

theorem ofParts_eq_none_iff {negative : Bool} {coefficient scale : Nat} (hs : scale ≤ 28) :
    ofParts negative coefficient scale = none ↔ twoTo 96 ≤ coefficient := by
  simp [ofParts, hs]

theorem ofMagnitude_of_pos {negative : Bool} {coefficient scale : Nat} (h : 0 < coefficient) :
    ofMagnitude negative coefficient scale = ofParts negative coefficient scale := by
  have hne : (coefficient != 0) = true := bne_iff_ne.mpr (by omega)
  rw [ofMagnitude, hne, Bool.and_true]

/-- A result that is not zero: its sign, and no more than `places` places. -/
structure Kept (negative : Bool) (places : Nat) (d : Decimal) : Prop where
  negative : d.negative = negative
  coefficient : 0 < d.coefficient
  scale_le : d.scale ≤ places

theorem kept_ofMagnitude {negative : Bool} {coefficient scale : Nat} {d : Decimal} (hc : 0 < coefficient)
    (h : ofMagnitude negative coefficient scale = some d) : Kept negative scale d := by
  rw [ofMagnitude_of_pos hc] at h
  obtain ⟨hn, hcoeff, hs⟩ := ofParts_eq_some h
  exact ⟨hn, by omega, by omega⟩

theorem fitFrom_kept {negative : Bool} {n dropped places : Nat} {d : Decimal} (hp : places ≤ 28)
    (hn : 0 < halfEven n (tenTo dropped)) (h : fitFrom negative n dropped places = some d) :
    Kept negative places d := by
  -- a place is given up only of a coefficient of more than 96 bits
  induction places generalizing dropped with
  | zero => exact kept_ofMagnitude hn h
  | succ places ih =>
    rw [fitFrom] at h
    split at h
    · rename_i hsome
      cases h
      exact kept_ofMagnitude hn hsome
    · rename_i hnone
      rw [ofMagnitude_of_pos hn, ofParts_eq_none_iff hp] at hnone
      have := ih (by omega) (halfEven_pos_of_large hnone) h
      exact ⟨this.negative, this.coefficient, Nat.le_succ_of_le this.scale_le⟩

theorem fit_kept {negative : Bool} {n scale : Nat} {d : Decimal} (hn : 0 < n) (hs : scale ≤ 28)
    (h : fit negative n scale = some d) : Kept negative scale d := by
  have h0 : scale - maxScale = 0 := Nat.sub_eq_zero_of_le hs
  have hm : min scale maxScale = scale := Nat.min_eq_left hs
  rw [fit, h0, hm] at h
  exact fitFrom_kept hs (by rwa [halfEven_one]) h

/-! ## Sums -/

theorem rescaled_pos {d : Decimal} (h : 0 < d.value) {scale : Nat} (hs : d.scale ≤ scale) : 0 < d.rescaled scale := by
  have hcast : (0 : Rat) < d.rescaled scale := by
    rw [rescaled_cast d hs]
    exact mul_pos h (tenTo_cast_pos scale)
  exact_mod_cast hcast

theorem add_positive {places : Nat} {a b d : Decimal} (ha : Positive places a) (hb : Positive places b)
    (h : a.add b = some d) : Positive places d := by
  rw [add, if_neg (not_isZero_of_pos ha.pos), if_neg (not_isZero_of_pos hb.pos)] at h
  have hra := rescaled_pos ha.pos (Nat.le_max_left a.scale b.scale)
  have hrb := rescaled_pos hb.pos (Nat.le_max_right a.scale b.scale)
  have hsum : 0 < a.rescaled (max a.scale b.scale) + b.rescaled (max a.scale b.scale) := by omega
  have hscale : max a.scale b.scale ≤ 28 := Nat.max_le.mpr ⟨a.scale_le, b.scale_le⟩
  have hkept := fit_kept (Int.natAbs_pos.mpr hsum.ne') hscale h
  refine ⟨(value_pos_iff d).mpr ⟨?_, hkept.coefficient⟩, ?_⟩
  · rw [hkept.negative, decide_eq_false_iff_not]
    omega
  · exact hkept.scale_le.trans (Nat.max_le.mpr ⟨ha.scale_le, hb.scale_le⟩)

theorem foldlM_add_positive {places : Nat} {ds : List Decimal} {a d : Decimal} (ha : Positive places a)
    (hs : ∀ e ∈ ds, Positive places e) (h : ds.foldlM add a = some d) : Positive places d := by
  induction ds generalizing a with
  | nil =>
    cases h
    exact ha
  | cons b ds ih =>
    rw [List.foldlM_cons] at h
    obtain ⟨c, hc, hd⟩ := Option.bind_eq_some_iff.mp h
    have hac := add_positive ha (hs b List.mem_cons_self) hc
    exact ih hac (fun e he => hs e (List.mem_cons_of_mem b he)) hd

theorem sum_positive {places : Nat} {ds : List Decimal} {d : Decimal} (hne : ds ≠ [])
    (hs : ∀ e ∈ ds, Positive places e) (h : sum ds = some d) : Positive places d := by
  obtain ⟨b, ds, rfl⟩ := List.exists_cons_of_ne_nil hne
  -- the zero that a sum starts from leaves the first operand as it is
  have h : ds.foldlM add b = some d := h
  exact foldlM_add_positive (hs b List.mem_cons_self) (fun e he => hs e (List.mem_cons_of_mem b he)) h

end Tariff.Decimal
