/-
  Tariff.Proofs.Decimal.Point — how far the point of a decimal can be moved.

  `Movable` says it of a number `n / 10^scale`, of any size, by its exact value: it rounds
  to no more than 96 bits. It holds of a decimal if and only if its point can be moved, and
  of a number whose last digits were cut off if and only if it holds of what is left.
  - `shiftRight_isSome_iff` / `shiftLeft_isSome_iff`: moving the point of a decimal.
  - `roundAtCut_isSome_iff` / `roundedBy_le_iff`: at a cut the next digit tells.
-/
import Mathlib.Tactic.Ring
import Tariff.Decimal
import Tariff.Proofs.Decimal.Positive
import Tariff.Proofs.Numeral

namespace Tariff.Decimal

/-! ## Moving the point -/

theorem lt_twoTo_iff {n : Nat} : n < twoTo 96 ↔ n ≤ maxCoefficient := by
  have h : twoTo 96 = maxCoefficient + 1 := by decide
  omega

theorem ofParts_isSome_iff (negative : Bool) {coefficient scale : Nat} :
    (ofParts negative coefficient scale).isSome = true ↔ coefficient ≤ maxCoefficient ∧ scale ≤ 28 := by
  rw [← lt_twoTo_iff]
  unfold ofParts
  split <;> simp_all

theorem ofMagnitude_isSome_iff {negative : Bool} {coefficient scale : Nat} :
    (ofMagnitude negative coefficient scale).isSome = true ↔ coefficient ≤ maxCoefficient ∧ scale ≤ 28 :=
  ofParts_isSome_iff _

theorem coefficient_le (d : Decimal) : d.coefficient ≤ maxCoefficient := lt_twoTo_iff.mp d.coefficient_lt

/-- A quotient that 96 bits hold is one that they hold with fewer places. -/
theorem halfEven_le_of_le {n dropped more : Nat} (h : halfEven n (tenTo dropped) ≤ maxCoefficient) :
    halfEven n (tenTo (dropped + more)) ≤ maxCoefficient := by
  cases more with
  | zero => exact h
  | succ more =>
    have hle := div_le_halfEven n (tenTo dropped)
    have hup := halfEven_le_div n (tenTo (dropped + (more + 1)))
    have hdiv : n / tenTo (dropped + (more + 1)) ≤ n / tenTo dropped / 10 := by
      rw [tenTo_add, tenTo_add more 1, ← Nat.div_div_eq_div_mul]
      refine Nat.div_le_div_left ?_ (by decide)
      exact Nat.le_mul_of_pos_left 10 (tenTo_pos more)
    have hmax : 2 ≤ maxCoefficient := by decide
    omega

theorem fitFrom_isSome_iff {negative : Bool} {n places : Nat} (dropped : Nat) (hp : places ≤ 28) :
    (fitFrom negative n dropped places).isSome = true ↔ halfEven n (tenTo (dropped + places)) ≤ maxCoefficient := by
  induction places generalizing dropped with
  | zero => simp [fitFrom, ofMagnitude_isSome_iff]
  | succ places ih =>
    have hstep := ih (dropped + 1) (by omega)
    rw [Nat.add_right_comm] at hstep
    rw [fitFrom]
    cases h : ofMagnitude negative (halfEven n (tenTo dropped)) (places + 1) with
    | none => exact hstep
    | some d =>
      have hd := ofMagnitude_isSome_iff.mp (Option.isSome_of_eq_some h)
      simp [halfEven_le_of_le hd.1]

/-- The point of `n / 10^scale` can be moved `places` to the right: the number rounds to no more than 96 bits. -/
def Movable (n scale places : Nat) : Prop :=
  places ≤ 28 ∧ 2 * (n * tenTo places) < (2 * maxCoefficient + 1) * tenTo scale

/-- For a coefficient in range that is its exact value. -/
theorem le_iff_of_coefficient {n scale places : Nat} (hn : n ≤ maxCoefficient) :
    n * tenTo places ≤ maxCoefficient * tenTo scale ↔
      2 * (n * tenTo places) < (2 * maxCoefficient + 1) * tenTo scale := by
  have hs := tenTo_pos scale
  constructor
  · intro h
    rw [Nat.add_mul, Nat.mul_assoc]
    omega
  · intro h
    rcases Nat.le_total places scale with hle | hle
    · exact Nat.mul_le_mul hn (tenTo_le hle)
    · obtain ⟨k, rfl⟩ := Nat.exists_eq_add_of_le hle
      have hk : n * tenTo (scale + k) = n * tenTo k * tenTo scale := by rw [tenTo_add]; ring
      rw [hk, ← Nat.mul_assoc] at h
      rw [hk]
      refine Nat.mul_le_mul_right _ ?_
      have := Nat.lt_of_mul_lt_mul_right h
      omega

theorem shiftRight_isSome_iff (d : Decimal) (places : Nat) :
    (d.shiftRight places).isSome = true ↔ Movable d.coefficient d.scale places := by
  have hscale := d.scale_le
  have hc := d.coefficient_le
  unfold Movable
  rw [← le_iff_of_coefficient hc, shiftRight]
  by_cases hle : places ≤ d.scale
  · rw [if_pos hle, ofParts_isSome_iff]
    have hmul := Nat.mul_le_mul hc (tenTo_le hle)
    constructor <;> intro <;> omega
  rw [if_neg hle]
  by_cases hlt : maxScale < places
  · have : ¬places ≤ 28 := Nat.not_le.mpr hlt
    simp [hlt, this]
  rw [if_neg hlt]
  have hp : places ≤ 28 := Nat.not_lt.mp hlt
  by_cases hz : d.isZero = true
  · have hzero : d.coefficient = 0 := by simpa [isZero] using hz
    simp [hz, hzero, hp]
  -- behind the last place the number is whole
  obtain ⟨k, rfl⟩ := Nat.exists_eq_add_of_le (Nat.le_of_not_le hle)
  have hk : d.coefficient * tenTo (d.scale + k) = d.coefficient * tenTo k * tenTo d.scale := by rw [tenTo_add]; ring
  have h0 : d.scale - maxScale = 0 := Nat.sub_eq_zero_of_le hscale
  have hm : min d.scale maxScale = d.scale := Nat.min_eq_left hscale
  rw [if_neg hz, Option.isSome_map, fit, h0, hm, fitFrom_isSome_iff 0 hscale, Nat.zero_add, hk,
    halfEven_mul _ (tenTo_pos d.scale)]
  exact ⟨fun h => ⟨hp, Nat.mul_le_mul_right _ h⟩, fun h => Nat.le_of_mul_le_mul_right h.2 (tenTo_pos d.scale)⟩

theorem shiftLeft_isSome_iff (d : Decimal) (places : Nat) : (d.shiftLeft places).isSome = true ↔ places ≤ 28 := by
  have hc := d.coefficient_le
  have hmax : maxScale = 28 := rfl
  unfold shiftLeft
  split_ifs with hlt hle
  · simp
    omega
  · rw [ofParts_isSome_iff]
    omega
  · have hup := halfUp_le d.coefficient (tenTo_pos (d.scale + places - maxScale))
    rw [ofParts_isSome_iff]
    omega

/-! ## Cutting digits off -/

theorem ofParts_shiftRight_isSome_iff (negative : Bool) {n scale : Nat} (places : Nat) (hn : n ≤ maxCoefficient)
    (hs : scale ≤ 28) :
    ((ofParts negative n scale).bind (·.shiftRight places)).isSome = true ↔
      places ≤ 28 ∧ n * tenTo places ≤ maxCoefficient * tenTo scale := by
  obtain ⟨d, hd⟩ := Option.isSome_iff_exists.mp ((ofParts_isSome_iff negative).mpr ⟨hn, hs⟩)
  obtain ⟨-, hc, hsc⟩ := ofParts_eq_some hd
  rw [hd, Option.bind_some, shiftRight_isSome_iff, Movable, hc, hsc, ← le_iff_of_coefficient hn]

def roundedBy (n : Nat) (next : Char) : Nat := if 5 ≤ digitValue next then n + 1 else n

/-- A coefficient that overflows at a cut gives up a place, and is then just as large as before. -/
theorem overflow_at_cut {scale places : Nat} :
    (maxCoefficient + 5) / 10 * tenTo places ≤ maxCoefficient * tenTo scale ↔
      (maxCoefficient + 1) * tenTo places ≤ maxCoefficient * tenTo (scale + 1) := by
  have hmax : maxCoefficient + 5 = 10 * ((maxCoefficient + 5) / 10) ∧ 5 ≤ maxCoefficient := by decide
  obtain ⟨hmax, hfive⟩ := hmax
  generalize (maxCoefficient + 5) / 10 = m at hmax ⊢
  have hten : tenTo (scale + 1) = tenTo scale * 10 := tenTo_add scale 1
  have hs := tenTo_pos scale
  rw [hten]
  rcases Nat.lt_or_ge scale places with hlt | hle
  · -- both are too large
    have hp : tenTo scale * 10 ≤ tenTo places := hten ▸ tenTo_le hlt
    have hm := Nat.mul_le_mul_left m hp
    have hc := Nat.mul_le_mul_left (maxCoefficient + 1) hp
    constructor <;> intro h <;> nlinarith
  · -- both are in range
    have hp := tenTo_le hle
    have hm := Nat.mul_le_mul_left m hp
    have hc := Nat.mul_le_mul_left (maxCoefficient + 1) hp
    constructor <;> intro <;> nlinarith

theorem roundAtCut_isSome_iff {n scale places : Nat} {next : Char} (hn : n ≤ maxCoefficient) (hs : scale ≤ 28)
    (hnext : isDigit next = true) :
    ((roundAtCut n scale next).bind (·.shiftRight places)).isSome = true ↔
      places ≤ 28 ∧ roundedBy n next * tenTo places ≤ maxCoefficient * tenTo scale := by
  have hne := ne_underscore hnext
  unfold roundAtCut roundedBy
  by_cases hup : 5 ≤ digitValue next
  · have hcond : (decide (next ≠ '_') && decide (5 ≤ digitValue next)) = true := by simp [hne, hup]
    rw [if_pos hcond, if_pos hup]
    rcases Nat.lt_or_ge n maxCoefficient with hlt | hge
    · obtain ⟨d, hd⟩ := Option.isSome_iff_exists.mp ((ofParts_isSome_iff false).mpr ⟨hlt, hs⟩)
      have hshift := ofParts_shiftRight_isSome_iff false places hlt hs
      rw [hd] at hshift ⊢
      exact hshift
    · obtain rfl : n = maxCoefficient := Nat.le_antisymm hn hge
      have hnone : ofParts false (maxCoefficient + 1) scale = none := by
        rw [ofParts_eq_none_iff hs, ← Nat.not_lt, lt_twoTo_iff]
        omega
      rw [hnone]
      cases scale with
      | zero =>
        have hp := tenTo_pos places
        have hzero : tenTo 0 = 1 := rfl
        simp only [if_true, Option.bind_none, Option.isSome_none, Bool.false_eq_true, false_iff, hzero]
        rintro ⟨-, h⟩
        have := Nat.le_mul_of_pos_right (maxCoefficient + 1) hp
        omega
      | succ scale =>
        have hdiv : (maxCoefficient + 5) / 10 ≤ maxCoefficient := by decide
        rw [← overflow_at_cut, ← ofParts_shiftRight_isSome_iff false places hdiv (by omega)]
        rfl
  · have hcond : ¬(decide (next ≠ '_') && decide (5 ≤ digitValue next)) = true := by simp [hup]
    rw [if_neg hcond, if_neg hup]
    exact ofParts_shiftRight_isSome_iff false places hn hs

/-- Behind a full coefficient the point cannot be moved past the cut. -/
theorem not_movable_past_cut {n x value len scale places : Nat} (hx : x ≤ 9) (hfull : maxCoefficient < 10 * n + x)
    (hlow : (10 * n + x) * tenTo len ≤ value) (hlt : scale < places) :
    ¬(if 5 ≤ x then n + 1 else n) * tenTo places ≤ maxCoefficient * tenTo scale ∧
      ¬2 * (value * tenTo places) < (2 * maxCoefficient + 1) * tenTo (scale + (len + 1)) := by
  have hs := tenTo_pos scale
  have hl := tenTo_pos len
  have hp : tenTo scale * 10 ≤ tenTo places := tenTo_add scale 1 ▸ tenTo_le hlt
  have hten : tenTo (scale + (len + 1)) = tenTo scale * (tenTo len * 10) := by
    rw [tenTo_add, tenTo_add len 1]
    rfl
  constructor
  · have hround : maxCoefficient < 10 * (if 5 ≤ x then n + 1 else n) := by
      have hmod : maxCoefficient % 10 = 5 := by decide
      split_ifs <;> omega
    generalize (if 5 ≤ x then n + 1 else n) = r at hround ⊢
    have hr := Nat.mul_le_mul_left r hp
    nlinarith
  · have hvalue : (maxCoefficient + 1) * tenTo len ≤ value := (Nat.mul_le_mul_right _ hfull).trans hlow
    have hv := Nat.mul_le_mul hvalue hp
    rw [hten]
    nlinarith

/-- Up to the cut the next digit tells whether the number rounds beyond 96 bits. -/
theorem movable_to_cut_iff {n x value len scale places : Nat} (hn : n ≤ maxCoefficient) (hx : x ≤ 9)
    (hlow : (10 * n + x) * tenTo len ≤ value) (hhigh : value < (10 * n + x + 1) * tenTo len) (hle : places ≤ scale) :
    (if 5 ≤ x then n + 1 else n) * tenTo places ≤ maxCoefficient * tenTo scale ↔
      2 * (value * tenTo places) < (2 * maxCoefficient + 1) * tenTo (scale + (len + 1)) := by
  obtain ⟨k, rfl⟩ := Nat.exists_eq_add_of_le hle
  have hp := tenTo_pos places
  have hl := tenTo_pos len
  have hleft : maxCoefficient * tenTo (places + k) = maxCoefficient * tenTo k * tenTo places := by
    rw [tenTo_add]
    ring
  have hright : (2 * maxCoefficient + 1) * tenTo (places + k + (len + 1)) =
      (20 * maxCoefficient + 10) * tenTo k * tenTo len * tenTo places := by
    rw [tenTo_add, tenTo_add places, tenTo_add len 1, show tenTo 1 = 10 from rfl]
    ring
  rw [hleft, hright, ← Nat.mul_assoc, Nat.mul_le_mul_right_iff hp, Nat.mul_lt_mul_right hp]
  cases k with
  | zero =>
    have hone : tenTo 0 = 1 := rfl
    rw [hone, Nat.mul_one, Nat.mul_one]
    have hround : (if 5 ≤ x then n + 1 else n) ≤ maxCoefficient ↔ 10 * n + x + 1 ≤ 10 * maxCoefficient + 5 := by
      split_ifs <;> omega
    rw [hround]
    constructor
    · intro h
      have := Nat.mul_le_mul_right (tenTo len) h
      nlinarith
    · intro h
      by_contra hlarge
      have hvalue := Nat.mul_le_mul_right (tenTo len) (Nat.lt_succ_iff.mp (Nat.not_le.mp hlarge))
      nlinarith
  | succ k =>
    have hten : 10 ≤ tenTo (k + 1) := tenTo_le (Nat.succ_le_succ (Nat.zero_le k))
    have hround : (if 5 ≤ x then n + 1 else n) ≤ maxCoefficient + 1 := by split_ifs <;> omega
    have hmax : 1 ≤ maxCoefficient := by decide
    have hcoefficient := Nat.mul_le_mul_left maxCoefficient hten
    have hvalue := Nat.mul_le_mul_right (tenTo len) (show 10 * n + x + 1 ≤ 10 * maxCoefficient + 10 by omega)
    have hright := Nat.mul_le_mul_right (tenTo len) (Nat.mul_le_mul_left (20 * maxCoefficient + 10) hten)
    exact iff_of_true (by omega) (by nlinarith)

/-- At a cut the next digit tells, whatever comes behind it. -/
theorem roundedBy_le_iff {n scale places : Nat} {next : Char} {rest : List Char} (hn : n ≤ maxCoefficient)
    (hnext : isDigit next = true) (hrest : ∀ d ∈ rest, isDigit d = true) (hp : places ≤ 28)
    (hcut : scale = 28 ∨ maxCoefficient < 10 * n + digitValue next) :
    roundedBy n next * tenTo places ≤ maxCoefficient * tenTo scale ↔
      2 * (Nat.ofDigitChars 10 rest (10 * n + digitValue next) * tenTo places) <
        (2 * maxCoefficient + 1) * tenTo (scale + (rest.length + 1)) := by
  obtain ⟨hlow, hhigh⟩ := ofDigitChars_bounds hrest (10 * n + digitValue next)
  have hx := digitValue_le hnext
  rcases Nat.lt_or_ge scale places with hlt | hle
  · have hfull := hcut.resolve_left (by omega)
    obtain ⟨h1, h2⟩ := not_movable_past_cut hx hfull hlow hlt
    exact iff_of_false h1 h2
  · exact movable_to_cut_iff hn hx hlow hhigh hle

end Tariff.Decimal
