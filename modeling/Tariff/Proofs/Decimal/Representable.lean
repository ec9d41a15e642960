/-
  Tariff.Proofs.Decimal.Representable — operations whose exact result is a decimal.

  A number is representable if it is a whole number of at most 96 bits with at most 28
  places. An operation whose exact result is representable gives it, whatever the places
  of its operands are; so a sum is exact if all its running totals are representable.
  - `mul_of_representable` / `hundredth_of_representable` / `add_of_representable`
  - `sum_of_representable`: a list, added up in order.
  - `nearestCent_roundToCents`: rounding goes to the nearest cent, a half away from zero.
-/
import Mathlib.Tactic.Ring
import Mathlib.Tactic.Linarith
import Tariff.Proofs.Decimal.Positive

namespace Tariff.Decimal

def Representable (x : Rat) : Prop := ∃ d : Decimal, d.value = x

theorem representable_zero : Representable 0 := ⟨zero, value_zero⟩

theorem abs_value (d : Decimal) : |d.value| = d.coefficient / tenTo d.scale := by
  rw [value_eq, abs_div, abs_of_pos (tenTo_cast_pos d.scale)]
  congr 1
  unfold signed
  cases d.negative <;> simp

/-! ## Giving up places of a representable number -/

/-- A number `m / 10^t` gives up no more places than it can spare. -/
theorem fitFrom_of_eq (negative : Bool) {n m t : Nat} (hm : m < twoTo 96) (dropped places : Nat) (ht : t ≤ places)
    (hp : places ≤ 28) (h : n * tenTo t = m * tenTo (dropped + places)) :
    ∃ d, fitFrom negative n dropped places = some d ∧ d.value = (if negative then -(m : Rat) else m) / tenTo t := by
  induction places generalizing dropped with
  | zero =>
    obtain rfl : t = 0 := Nat.le_zero.mp ht
    have hone : tenTo 0 = 1 := rfl
    have hn : n = m * tenTo dropped := by simpa [hone] using h
    obtain ⟨d, hd, -, hv⟩ := value_ofMagnitude negative hm (Nat.zero_le 28)
    rw [fitFrom, hn, halfEven_mul _ (tenTo_pos dropped)]
    exact ⟨d, hd, hv⟩
  | succ places ih =>
    obtain ⟨k, hk⟩ := Nat.exists_eq_add_of_le ht
    have hn : n = m * tenTo k * tenTo dropped := by
      have hsplit : tenTo (dropped + (places + 1)) = tenTo k * tenTo dropped * tenTo t := by
        rw [hk, tenTo_add, tenTo_add]
        ring
      rw [hsplit, ← Nat.mul_assoc, ← Nat.mul_assoc] at h
      exact Nat.eq_of_mul_eq_mul_right (tenTo_pos t) h
    rw [fitFrom, hn, halfEven_mul _ (tenTo_pos dropped), ← hn]
    by_cases hlt : m * tenTo k < twoTo 96
    · obtain ⟨d, hd, -, hv⟩ := value_ofMagnitude negative hlt hp
      rw [hd]
      refine ⟨d, rfl, ?_⟩
      have hk0 := (tenTo_cast_pos k).ne'
      have ht0 := (tenTo_cast_pos t).ne'
      rw [hv, hk, tenTo_add]
      push_cast
      cases negative <;> (simp; field_simp)
    · -- there is a place to spare
      have hnone : ofMagnitude negative (m * tenTo k) (places + 1) = none := by simp [ofMagnitude, ofParts, hlt]
      have hle : t ≤ places := by
        by_contra hgt
        obtain rfl : k = 0 := by omega
        have hone : tenTo 0 = 1 := rfl
        exact hlt (by rwa [hone, Nat.mul_one])
      rw [hnone]
      exact ih (dropped + 1) hle (by omega) (by rw [h]; congr 2; omega)

theorem fit_of_representable (negative : Bool) {n scale : Nat} (h : Representable (n / tenTo scale)) :
    ∃ d, fit negative n scale = some d ∧ d.value = (if negative then -(n : Rat) else n) / tenTo scale := by
  obtain ⟨r, hr⟩ := h
  have hcross : n * tenTo r.scale = r.coefficient * tenTo scale := by
    have habs := abs_value r
    rw [hr, abs_of_nonneg (div_nonneg (Nat.cast_nonneg n) (tenTo_cast_pos scale).le),
      div_eq_div_iff (tenTo_cast_pos scale).ne' (tenTo_cast_pos r.scale).ne'] at habs
    exact_mod_cast habs
  have hscale : scale - maxScale + min scale maxScale = scale := by omega
  have hmax : min scale maxScale ≤ 28 := Nat.min_le_right _ _
  rcases Nat.le_total r.scale scale with hle | hge
  · obtain ⟨d, hd, hv⟩ := fitFrom_of_eq negative r.coefficient_lt (scale - maxScale) (min scale maxScale)
      (Nat.le_min.mpr ⟨hle, r.scale_le⟩) hmax (by rw [hscale, hcross])
    refine ⟨d, hd, ?_⟩
    have hs := (tenTo_cast_pos scale).ne'
    have hr0 := (tenTo_cast_pos r.scale).ne'
    have hcast : (n : Rat) * tenTo r.scale = r.coefficient * tenTo scale := by exact_mod_cast hcross
    rw [hv]
    cases negative
    · simp only [Bool.false_eq_true, if_false]
      rw [div_eq_div_iff hr0 hs, hcast]
    · simp only [if_true]
      rw [div_eq_div_iff hr0 hs, neg_mul, neg_mul, hcast]
  · -- with fewer places the coefficient is smaller still
    have hn : n < twoTo 96 := by
      refine Nat.lt_of_le_of_lt ?_ r.coefficient_lt
      refine Nat.le_of_mul_le_mul_right ?_ (tenTo_pos r.scale)
      rw [hcross]
      exact Nat.mul_le_mul_left _ (tenTo_le hge)
    rw [fit_of_lt hn (hge.trans r.scale_le)]
    obtain ⟨d, hd, -, hv⟩ := value_ofMagnitude negative hn (hge.trans r.scale_le)
    exact ⟨d, hd, hv⟩

/-! ## Operations -/

theorem Representable.abs {x : Rat} (h : Representable x) : Representable |x| := by
  obtain ⟨d, rfl⟩ := h
  refine ⟨⟨false, d.coefficient, d.scale, d.coefficient_lt, d.scale_le⟩, ?_⟩
  rw [abs_value, value_eq]
  rfl

theorem value_signed (d : Decimal) :
    d.value = (if d.negative then -(d.coefficient : Rat) else d.coefficient) / tenTo d.scale := by
  rw [value_eq, signed]
  cases d.negative <;> simp

theorem mul_of_representable {a b : Decimal} (h : Representable (a.value * b.value)) :
    ∃ d, a.mul b = some d ∧ d.value = a.value * b.value := by
  unfold mul
  split_ifs with hzero
  · refine ⟨zero, rfl, ?_⟩
    rcases (Bool.or_eq_true _ _).mp hzero with hz | hz
    · rw [value_of_isZero hz, value_zero, zero_mul]
    · rw [value_of_isZero hz, value_zero, mul_zero]
  · have hexact : Representable ((a.coefficient * b.coefficient : Nat) / tenTo (a.scale + b.scale)) := by
      have habs := h.abs
      rw [abs_mul, abs_value, abs_value, div_mul_div_comm] at habs
      rw [tenTo_add]
      exact_mod_cast habs
    obtain ⟨d, hd, hv⟩ := fit_of_representable (a.negative != b.negative) hexact
    refine ⟨d, hd, ?_⟩
    rw [hv, value_signed a, value_signed b, div_mul_div_comm, tenTo_add]
    cases a.negative <;> cases b.negative <;> simp

/-- One hundredth of a number with `places` more places and `dropped` zeros less. -/
theorem fit_of_hundredth {a : Decimal} (h : Representable (a.value / 100)) {n : Nat} (dropped places : Nat)
    (hsum : dropped + places = 2) (hn : a.coefficient = n * tenTo dropped) :
    ∃ d, fit a.negative n (a.scale + places) = some d ∧ d.value = a.value / 100 := by
  have hp := (tenTo_cast_pos a.scale).ne'
  have hhundred : (tenTo dropped : Rat) * tenTo places = 100 := by
    rw [tenTo_cast, tenTo_cast, ← pow_add, hsum]
    norm_num
  have hd0 := (tenTo_cast_pos dropped).ne'
  have hp0 := (tenTo_cast_pos places).ne'
  have hvalue : ∀ x : Rat, x * tenTo dropped / tenTo a.scale / 100 = x / tenTo (a.scale + places) := by
    intro x
    rw [← hhundred, tenTo_add]
    push_cast
    field_simp
  have hexact : Representable (n / tenTo (a.scale + places)) := by
    have habs := h.abs
    rw [abs_div, abs_value, hn, abs_of_pos (by norm_num : (0 : Rat) < 100)] at habs
    push_cast at habs
    rwa [hvalue] at habs
  obtain ⟨d, hd, hv⟩ := fit_of_representable a.negative hexact
  refine ⟨d, hd, ?_⟩
  rw [hv, value_signed a, hn]
  push_cast
  cases a.negative
  · simp only [Bool.false_eq_true, if_false]
    rw [hvalue]
  · simp only [if_true]
    rw [← neg_mul, hvalue]

theorem hundredth_of_representable {a : Decimal} (h : Representable (a.value / 100)) :
    ∃ d, a.hundredth = some d ∧ d.value = a.value / 100 := by
  unfold hundredth
  split_ifs with hzero hundred ten
  · exact ⟨zero, rfl, by rw [value_of_isZero hzero, value_zero, zero_div]⟩
  · have hpos : 0 < a.coefficient / 100 := by
      have hne : a.coefficient ≠ 0 := by simpa [isZero] using hzero
      omega
    have hlt : a.coefficient / 100 < twoTo 96 := Nat.lt_of_le_of_lt (Nat.div_le_self _ _) a.coefficient_lt
    rw [← ofMagnitude_of_pos hpos, ← fit_of_lt hlt a.scale_le]
    exact fit_of_hundredth h 2 0 rfl (Nat.div_mul_cancel (Nat.dvd_of_mod_eq_zero hundred)).symm
  · exact fit_of_hundredth h 1 1 rfl (Nat.div_mul_cancel (Nat.dvd_of_mod_eq_zero ten)).symm
  · exact fit_of_hundredth h 0 2 rfl (Nat.mul_one _).symm

theorem add_of_representable {a b : Decimal} (h : Representable (a.value + b.value)) :
    ∃ d, a.add b = some d ∧ d.value = a.value + b.value := by
  unfold add
  split_ifs with ha hb
  · exact ⟨b, rfl, by rw [value_of_isZero ha, zero_add]⟩
  · exact ⟨a, rfl, by rw [value_of_isZero hb, add_zero]⟩
  · simp only
    generalize hscale : max a.scale b.scale = scale
    have hp := tenTo_cast_pos scale
    have hsum : ((a.rescaled scale + b.rescaled scale : Int) : Rat) = (a.value + b.value) * tenTo scale := by
      push_cast
      rw [rescaled_cast a (by omega), rescaled_cast b (by omega), add_mul]
    have hexact : Representable ((a.rescaled scale + b.rescaled scale).natAbs / tenTo scale) := by
      have habs := h.abs
      rwa [← mul_div_cancel_right₀ (a.value + b.value) hp.ne', ← hsum, abs_div, abs_of_pos hp, ← Int.cast_abs,
        Int.abs_eq_natAbs, Int.cast_natCast] at habs
    obtain ⟨d, hd, hv⟩ := fit_of_representable (a.rescaled scale + b.rescaled scale < 0) hexact
    refine ⟨d, hd, ?_⟩
    rw [hv, signed_natAbs, hsum, mul_div_cancel_right₀ _ hp.ne']

/-! ## Lists -/

def runningTotals (ds : List Decimal) : List Rat := (ds.map value).scanl (· + ·) 0

theorem start_mem_scanl (a : Rat) (xs : List Rat) : a ∈ xs.scanl (· + ·) a := by
  cases xs <;> simp

theorem foldlM_add_of_representable (ds : List Decimal) (a : Decimal)
    (h : ∀ x ∈ (ds.map value).scanl (· + ·) a.value, Representable x) :
    ∃ d, ds.foldlM add a = some d ∧ d.value = a.value + exactSum ds := by
  induction ds generalizing a with
  | nil => exact ⟨a, rfl, by simp⟩
  | cons b ds ih =>
    rw [List.map_cons, List.scanl_cons] at h
    have hrest : ∀ x ∈ (ds.map value).scanl (· + ·) (a.value + b.value), Representable x := by
      intro x hx
      exact h x (List.mem_cons_of_mem _ hx)
    obtain ⟨c, hc, hcv⟩ := add_of_representable (hrest _ (start_mem_scanl _ _))
    obtain ⟨d, hd, hdv⟩ := ih c (hcv ▸ hrest)
    refine ⟨d, ?_, ?_⟩
    · rw [List.foldlM_cons, hc]
      exact hd
    · rw [hdv, hcv, exactSum_cons, add_assoc]

theorem sum_of_representable {ds : List Decimal} (h : ∀ x ∈ runningTotals ds, Representable x) :
    ∃ d, sum ds = some d ∧ d.value = exactSum ds := by
  obtain ⟨d, hd, hv⟩ := foldlM_add_of_representable ds zero (by rwa [value_zero])
  exact ⟨d, hd, by rwa [value_zero, zero_add] at hv⟩

/-! ## Cents -/

/-- `y` is the whole number of cents nearest to `x`; of two equally near ones, the one further from zero. -/
structure NearestCent (x y : Rat) : Prop where
  cents : ∃ n : Int, y = n / 100
  nearest : |y - x| ≤ 1 / 200
  away : |y - x| = 1 / 200 → |x| < |y|

theorem NearestCent.neg {x y : Rat} (h : NearestCent x y) : NearestCent (-x) (-y) := by
  obtain ⟨n, hn⟩ := h.cents
  have hdist : |-y - -x| = |y - x| := by rw [← abs_neg (y - x)]; congr 1; ring
  refine ⟨⟨-n, by rw [hn]; push_cast; ring⟩, ?_, ?_⟩
  · rw [hdist]
    exact h.nearest
  · rw [hdist, abs_neg, abs_neg]
    exact h.away

theorem NearestCent.nonneg {x y : Rat} (h : NearestCent x y) (hx : 0 ≤ x) : 0 ≤ y := by
  obtain ⟨n, rfl⟩ := h.cents
  have hlow := (abs_le.mp h.nearest).1
  have hn : (-1 : Rat) < n := by linarith
  have hn : 0 ≤ n := by
    have : -1 < n := by exact_mod_cast hn
    omega
  positivity

theorem nearestCent_halfUp (n : Nat) {den : Nat} (h : 0 < den) : NearestCent (n / (den * 100)) (halfUp n den / 100) := by
  have hd : (0 : Rat) < den := by exact_mod_cast h
  -- twice the quotient, in units of the denominator
  have hlow : (halfUp n den * (2 * den) : Rat) ≤ 2 * n + den := by
    exact_mod_cast Nat.div_mul_le_self (2 * n + den) (2 * den)
  have hhigh : (2 * n + den : Rat) < (halfUp n den + 1) * (2 * den) := by
    exact_mod_cast (Nat.div_lt_iff_lt_mul (by omega)).mp (Nat.lt_succ_self (halfUp n den))
  have hdist : (halfUp n den / 100 - n / (den * 100) : Rat) = (halfUp n den * (2 * den) - 2 * n) / (den * 200) := by
    field_simp
    ring
  have hupper : (halfUp n den / 100 - n / (den * 100) : Rat) ≤ 1 / 200 := by
    rw [hdist, div_le_div_iff₀ (by positivity) (by norm_num)]
    linarith
  have hlower : (-(1 / 200) : Rat) < halfUp n den / 100 - n / (den * 100) := by
    rw [hdist, ← neg_div, div_lt_div_iff₀ (by norm_num) (by positivity)]
    linarith
  refine ⟨⟨halfUp n den, by norm_num⟩, abs_le.mpr ⟨hlower.le, hupper⟩, ?_⟩
  intro htie
  rcases (abs_eq (by norm_num : (0 : Rat) ≤ 1 / 200)).mp htie with h | h
  · rw [abs_of_nonneg (by positivity), abs_of_nonneg (by positivity)]
    linarith
  · rw [h] at hlower
    exact absurd hlower (lt_irrefl _)

theorem nearestCent_roundToCents (d : Decimal) : NearestCent d.value d.roundToCents.value := by
  unfold roundToCents
  split_ifs with hscale
  · -- it is a whole number of cents already
    obtain ⟨k, hk⟩ := Nat.exists_eq_add_of_le hscale
    have hcents : (tenTo d.scale : Rat) * tenTo k = 100 := by
      rw [tenTo_cast, tenTo_cast, ← pow_add, ← hk]
      norm_num
    refine ⟨⟨d.signed * tenTo k, ?_⟩, by simp, by simp⟩
    rw [value_eq, ← hcents]
    push_cast
    rw [mul_div_mul_right _ _ (tenTo_cast_pos k).ne']
  · obtain ⟨k, hk⟩ := Nat.exists_eq_add_of_le (Nat.le_of_not_le hscale)
    have hcents : tenTo (d.scale - 2) * 100 = tenTo d.scale := by
      rw [hk, Nat.add_sub_cancel_left, tenTo_add, Nat.mul_comm]
      rfl
    have hnearest := nearestCent_halfUp d.coefficient (tenTo_pos (d.scale - 2))
    have hcast : (tenTo (d.scale - 2) : Rat) * 100 = tenTo d.scale := by exact_mod_cast hcents
    have htwo : (tenTo 2 : Rat) = 100 := by exact_mod_cast (rfl : tenTo 2 = 100)
    rw [hcast] at hnearest
    rw [value_signed d, value_signed]
    simp only [htwo]
    cases d.negative
    · exact hnearest
    · simp only [if_true, neg_div]
      exact hnearest.neg

theorem value_clampZero (d : Decimal) : d.clampZero.value = max 0 d.value := by
  unfold clampZero
  split_ifs with h
  · have hlt : d.value < 0 := by rwa [← value_zero]
    rw [value_zero, max_eq_left hlt.le]
  · have hle : 0 ≤ d.value := by
      rw [← value_zero]
      exact not_lt.mp h
    rw [max_eq_right hle]

end Tariff.Decimal
