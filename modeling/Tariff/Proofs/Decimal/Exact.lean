/-
  Tariff.Proofs.Decimal.Exact — when decimal sums are exact.

  A sum rounds only when its result needs more than 96 bits at the places it is formed
  with. `Fits places x` says that a number is small enough at some number of places; the
  sum of decimals with at most that many places is then the sum of their values.
  - `add_of_fits`: one sum.
  - `sum_of_fits`: a list whose magnitudes together fit, in any order and of any sign.
-/
import Mathlib.Tactic.Linarith
import Mathlib.Tactic.Positivity
import Mathlib.Tactic.FieldSimp
import Mathlib.Algebra.Order.BigOperators.Group.List
import Tariff.Decimal

namespace Tariff.Decimal

/-! ## Values -/

theorem tenTo_cast (n : Nat) : (tenTo n : Rat) = 10 ^ n := by
  have h : tenTo n = 10 ^ n := rfl
  rw [h]
  push_cast
  rfl

theorem tenTo_cast_pos (n : Nat) : (0 : Rat) < tenTo n := by
  exact_mod_cast tenTo_pos n

theorem tenTo_add (m n : Nat) : tenTo (m + n) = tenTo m * tenTo n := Nat.pow_add 10 m n

theorem value_eq (d : Decimal) : d.value = d.signed / tenTo d.scale := Rat.mkRat_eq_div _ _

theorem le_def {a b : Decimal} : a ≤ b ↔ a.value ≤ b.value := Iff.rfl

theorem lt_def {a b : Decimal} : a < b ↔ a.value < b.value := Iff.rfl

@[simp] theorem value_zero : zero.value = 0 := by decide

theorem value_of_isZero {d : Decimal} (h : d.isZero = true) : d.value = 0 := by
  have hc : d.coefficient = 0 := by simpa [isZero] using h
  have hs : d.signed = 0 := by unfold signed; split <;> omega
  rw [value_eq, hs]
  simp

/-- The coefficient at a larger scale is the value in units of that scale. -/
theorem rescaled_cast (d : Decimal) {scale : Nat} (h : d.scale ≤ scale) :
    (d.rescaled scale : Rat) = d.value * tenTo scale := by
  obtain ⟨k, rfl⟩ := Nat.exists_eq_add_of_le h
  have hp := tenTo_cast_pos d.scale
  rw [value_eq, rescaled, Nat.add_sub_cancel_left, tenTo_add]
  push_cast
  field_simp

/-! ## Numbers that fit -/

/-- The number has a magnitude that 96 bits hold with `places` places. -/
def Fits (places : Nat) (x : Rat) : Prop := |x| * tenTo places ≤ maxCoefficient

theorem Fits.of_abs_le {places : Nat} {x y : Rat} (h : Fits places y) (hle : |x| ≤ y) : Fits places x := by
  have habs : |x| ≤ |y| := hle.trans (le_abs_self y)
  exact le_trans (mul_le_mul_of_nonneg_right habs (tenTo_cast_pos places).le) h

theorem Fits.of_le {places : Nat} {x y : Rat} (h : Fits places y) (hx : 0 ≤ x) (hle : x ≤ y) : Fits places x :=
  h.of_abs_le (by rwa [abs_of_nonneg hx])

theorem tenTo_le {m n : Nat} (h : m ≤ n) : tenTo m ≤ tenTo n := Nat.pow_le_pow_right (by decide) h

theorem Fits.fewer {m n : Nat} {x : Rat} (h : Fits n x) (hle : m ≤ n) : Fits m x := by
  have ht : (tenTo m : Rat) ≤ tenTo n := by exact_mod_cast tenTo_le hle
  exact le_trans (mul_le_mul_of_nonneg_left ht (abs_nonneg x)) h

/-! ## One sum -/

theorem value_ofMagnitude (negative : Bool) {n scale : Nat} (hn : n < twoTo 96) (hs : scale ≤ 28) :
    ∃ d, ofMagnitude negative n scale = some d ∧ d.scale = scale ∧
      d.value = (if negative then -(n : Rat) else n) / tenTo scale := by
  refine ⟨⟨negative && n != 0, n, scale, hn, hs⟩, ?_, rfl, ?_⟩
  · simp [ofMagnitude, ofParts, hn, hs]
  · rw [value_eq]
    congr 1
    by_cases h0 : n = 0
    · subst h0
      cases negative <;> simp [signed]
    · cases negative <;> simp [signed, h0]

theorem halfEven_one (n : Nat) : halfEven n (tenTo 0) = n := by
  have h : tenTo 0 = 1 := rfl
  simp [halfEven, h, Nat.mod_one]

theorem halfEven_mul (n : Nat) {den : Nat} (h : 0 < den) : halfEven (n * den) den = n := by
  have hdiv : n * den / den = n := Nat.mul_div_cancel n h
  have hmod : n * den % den = 0 := Nat.mul_mod_left n den
  simp [halfEven, hdiv, hmod, h]

/-- Nothing is given up of a coefficient that has its place. -/
theorem fit_of_lt {negative : Bool} {n scale : Nat} (hn : n < twoTo 96) (hs : scale ≤ 28) :
    fit negative n scale = ofMagnitude negative n scale := by
  obtain ⟨d, hd, -, -⟩ := value_ofMagnitude negative hn hs
  have h0 : scale - maxScale = 0 := Nat.sub_eq_zero_of_le hs
  have hm : min scale maxScale = scale := Nat.min_eq_left hs
  unfold fit
  rw [h0, hm]
  cases scale with
  | zero => rw [fitFrom, halfEven_one]
  | succ scale => rw [fitFrom, halfEven_one, hd]

/-- The magnitude and the sign of a whole number. -/
theorem signed_natAbs (z : Int) : (if decide (z < 0) then -(z.natAbs : Rat) else z.natAbs) = z := by
  by_cases h : z < 0
  · simp only [h, decide_true, if_true, Nat.cast_natAbs, abs_of_neg h]
    push_cast
    rw [neg_neg]
  · simp only [h, decide_false, Bool.false_eq_true, if_false, Nat.cast_natAbs, abs_of_nonneg (not_lt.mp h)]

theorem natAbs_lt_of_fits {z : Int} {x : Rat} {scale : Nat} (hz : (z : Rat) = x * tenTo scale)
    (h : Fits scale x) : z.natAbs < twoTo 96 := by
  have hx : |(z : Rat)| ≤ maxCoefficient := by
    rw [hz, abs_mul, abs_of_pos (tenTo_cast_pos scale)]
    exact h
  have hi : |z| ≤ (maxCoefficient : Int) := by exact_mod_cast hx
  have hm : maxCoefficient < twoTo 96 := by decide
  rw [Int.abs_eq_natAbs] at hi
  omega

/-- A sum that fits at the places of its operands is exact. -/
theorem add_of_fits {a b : Decimal} {places : Nat} (ha : a.scale ≤ places) (hb : b.scale ≤ places)
    (h : Fits places (a.value + b.value)) :
    ∃ d, a.add b = some d ∧ d.value = a.value + b.value ∧ d.scale ≤ places := by
  unfold add
  by_cases za : a.isZero = true
  · rw [if_pos za]
    exact ⟨b, rfl, by rw [value_of_isZero za, zero_add], hb⟩
  rw [if_neg za]
  by_cases zb : b.isZero = true
  · rw [if_pos zb]
    exact ⟨a, rfl, by rw [value_of_isZero zb, add_zero], ha⟩
  rw [if_neg zb]
  have hs : max a.scale b.scale ≤ 28 := Nat.max_le.2 ⟨a.scale_le, b.scale_le⟩
  have hp : max a.scale b.scale ≤ places := Nat.max_le.2 ⟨ha, hb⟩
  generalize hsc : max a.scale b.scale = scale at hs hp ⊢
  have hz : ((a.rescaled scale + b.rescaled scale : Int) : Rat) = (a.value + b.value) * tenTo scale := by
    push_cast
    rw [rescaled_cast a (by omega), rescaled_cast b (by omega), add_mul]
  have hlt := natAbs_lt_of_fits hz (h.fewer hp)
  obtain ⟨d, hd, hds, hdv⟩ := value_ofMagnitude (a.rescaled scale + b.rescaled scale < 0) hlt hs
  refine ⟨d, ?_, ?_, by omega⟩
  · simp only [fit_of_lt hlt hs, hd]
  · rw [hdv, signed_natAbs, hz, mul_div_assoc, div_self (tenTo_cast_pos scale).ne', mul_one]

/-! ## Lists -/

def magnitude (ds : List Decimal) : Rat := (ds.map fun d => |d.value|).sum

def exactSum (ds : List Decimal) : Rat := (ds.map value).sum

@[simp] theorem magnitude_nil : magnitude [] = 0 := rfl
@[simp] theorem exactSum_nil : exactSum [] = 0 := rfl

@[simp] theorem magnitude_cons (d : Decimal) (ds : List Decimal) : magnitude (d :: ds) = |d.value| + magnitude ds := by
  simp [magnitude]

@[simp] theorem exactSum_cons (d : Decimal) (ds : List Decimal) : exactSum (d :: ds) = d.value + exactSum ds := by
  simp [exactSum]

@[simp] theorem magnitude_append (as bs : List Decimal) : magnitude (as ++ bs) = magnitude as + magnitude bs := by
  simp [magnitude]

@[simp] theorem exactSum_append (as bs : List Decimal) : exactSum (as ++ bs) = exactSum as + exactSum bs := by
  simp [exactSum]

theorem magnitude_nonneg (ds : List Decimal) : 0 ≤ magnitude ds := by
  refine List.sum_nonneg ?_
  intro x hx
  obtain ⟨d, -, rfl⟩ := List.mem_map.mp hx
  exact abs_nonneg _

theorem abs_exactSum_le (ds : List Decimal) : |exactSum ds| ≤ magnitude ds := by
  induction ds with
  | nil => simp
  | cons d ds ih =>
    rw [exactSum_cons, magnitude_cons]
    exact (abs_add_le _ _).trans (by linarith)

theorem magnitude_sublist {as bs : List Decimal} (h : as.Sublist bs) : magnitude as ≤ magnitude bs := by
  induction h with
  | slnil => exact le_refl _
  | cons b _ ih =>
    rw [magnitude_cons]
    exact ih.trans (le_add_of_nonneg_left (abs_nonneg _))
  | cons_cons a _ ih =>
    rw [magnitude_cons, magnitude_cons]
    exact add_le_add_right ih _

theorem magnitude_perm {as bs : List Decimal} (h : as.Perm bs) : magnitude as = magnitude bs :=
  (h.map _).sum_eq

theorem exactSum_perm {as bs : List Decimal} (h : as.Perm bs) : exactSum as = exactSum bs :=
  (h.map _).sum_eq

theorem abs_value_le_magnitude {ds : List Decimal} {d : Decimal} (h : d ∈ ds) : |d.value| ≤ magnitude ds := by
  have := magnitude_sublist (List.singleton_sublist.mpr h)
  rwa [magnitude_cons, magnitude_nil, add_zero] at this

/-- Numbers that are not below zero are their magnitudes. -/
theorem magnitude_eq_exactSum {ds : List Decimal} (h : ∀ d ∈ ds, 0 ≤ d.value) : magnitude ds = exactSum ds := by
  induction ds with
  | nil => rfl
  | cons d ds ih =>
    rw [magnitude_cons, exactSum_cons, abs_of_nonneg (h d List.mem_cons_self),
      ih fun e he => h e (List.mem_cons_of_mem d he)]

theorem foldlM_add_of_fits {places : Nat} (ds : List Decimal) (a : Decimal) (ha : a.scale ≤ places)
    (hs : ∀ d ∈ ds, d.scale ≤ places) (h : Fits places (|a.value| + magnitude ds)) :
    ∃ d, ds.foldlM add a = some d ∧ d.value = a.value + exactSum ds ∧ d.scale ≤ places := by
  induction ds generalizing a with
  | nil => exact ⟨a, rfl, by simp, ha⟩
  | cons b ds ih =>
    have hm := magnitude_nonneg ds
    have hab := abs_add_le a.value b.value
    rw [magnitude_cons] at h
    obtain ⟨c, hc, hcv, hcs⟩ := add_of_fits ha (hs b List.mem_cons_self) (h.of_abs_le (by linarith))
    have hrest : Fits places (|c.value| + magnitude ds) := h.of_le (by positivity) (by rw [hcv]; linarith)
    obtain ⟨d, hd, hdv, hds⟩ := ih c hcs (fun e he => hs e (List.mem_cons_of_mem b he)) hrest
    refine ⟨d, ?_, ?_, hds⟩
    · rw [List.foldlM_cons, hc]
      exact hd
    · rw [hdv, hcv, exactSum_cons, add_assoc]

/-- A list whose magnitudes fit together adds up exactly. -/
theorem sum_of_fits {places : Nat} {ds : List Decimal} (hs : ∀ d ∈ ds, d.scale ≤ places)
    (h : Fits places (magnitude ds)) : ∃ d, sum ds = some d ∧ d.value = exactSum ds ∧ d.scale ≤ places := by
  obtain ⟨d, hd, hdv, hds⟩ := foldlM_add_of_fits ds zero (Nat.zero_le _) hs (by simpa using h)
  exact ⟨d, hd, by simpa using hdv, hds⟩

/-! ## Whole numbers -/

theorem ofNat_of_lt {n : Nat} (h : n < twoTo 96) : ofNat n = some ⟨false, n, 0, h, by decide⟩ :=
  dif_pos ⟨h, by decide⟩

theorem value_ofNat {n : Nat} {d : Decimal} (h : ofNat n = some d) : d.value = n := by
  unfold ofNat ofParts at h
  split_ifs at h
  cases h
  rw [value_eq]
  simp [signed, tenTo]

/-- Whole numbers add up to a whole one, which is kept without places. -/
theorem add_ofNat {m n : Nat} (h : m + n < twoTo 96) {a b : Decimal} (ha : ofNat m = some a) (hb : ofNat n = some b) :
    a.add b = ofNat (m + n) := by
  rw [ofNat_of_lt (by omega), Option.some.injEq] at ha hb
  subst ha hb
  unfold add
  simp only [isZero, beq_iff_eq]
  split_ifs with hm hn
  · subst hm
    rw [Nat.zero_add, ofNat_of_lt]
  · subst hn
    rw [Nat.add_zero, ofNat_of_lt]
  · have hrescaled : ∀ (k : Nat) (hk : k < twoTo 96), (⟨false, k, 0, hk, by decide⟩ : Decimal).rescaled 0 = k :=
      fun k _ => Int.mul_one k
    have hsum : ((m : Int) + n).natAbs = m + n := by omega
    have hsign : decide ((m : Int) + n < 0) = false := decide_eq_false (by omega)
    simp only [Nat.max_self, hrescaled, hsum, hsign]
    exact fit_of_lt h (by decide)

theorem foldlM_add_ofNat (ns : List Nat) {m : Nat} {a : Decimal} (ha : ofNat m = some a) (h : m + ns.sum < twoTo 96) :
    (ns.map fun n => (ofNat n).getD zero).foldlM add a = ofNat (m + ns.sum) := by
  induction ns generalizing m a with
  | nil => exact ha.symm
  | cons n ns ih =>
    rw [List.sum_cons, ← Nat.add_assoc] at h ⊢
    have hn := ofNat_of_lt (n := n) (by omega)
    have hsum := ofNat_of_lt (n := m + n) (by omega)
    rw [List.map_cons, List.foldlM_cons, hn, Option.getD_some, add_ofNat (by omega) ha hn, hsum]
    exact ih hsum h

theorem sum_ofNat {ns : List Nat} (h : ns.sum < twoTo 96) :
    sum (ns.map fun n => (ofNat n).getD zero) = ofNat ns.sum := by
  have hzero : ofNat 0 = some zero := rfl
  rw [sum, foldlM_add_ofNat ns hzero (by omega), Nat.zero_add]

end Tariff.Decimal
