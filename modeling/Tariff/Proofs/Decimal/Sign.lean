/-
  Tariff.Proofs.Decimal.Sign — operations that do not lead below zero.

  Giving up places, or rounding to nothing, never makes a sign. So sums, products and
  hundredths of decimals that are not below zero are not below zero either, however they
  round, and neither is the decimal of a binary64 number without a sign.
  - `zero_le_mul` / `zero_le_hundredth` / `zero_le_sum` / `zero_le_ofBinary64`
-/
import Tariff.Proofs.Decimal.Positive
import Tariff.Decimal

namespace Tariff.Decimal

theorem zero_le_iff_signed {d : Decimal} : zero ≤ d ↔ 0 ≤ d.signed := by
  show zero.value ≤ mkRat d.signed (tenTo d.scale) ↔ _
  rw [value_zero, Rat.mkRat_nonneg_iff _ (tenTo_pos d.scale).ne']

theorem zero_le_iff {d : Decimal} : zero ≤ d ↔ d.isZero = true ∨ d.negative = false := by
  rw [zero_le_iff_signed, signed, isZero, beq_iff_eq]
  cases d.negative with
  | false => simp
  | true => simp

theorem clampZero_of_zero_le {d : Decimal} (h : zero ≤ d) : d.clampZero = d :=
  if_neg (Rat.not_lt.mpr h)

/-! ## Giving up places -/

theorem unsigned_of_ofMagnitude {coefficient scale : Nat} {d : Decimal}
    (h : ofMagnitude false coefficient scale = some d) : d.negative = false :=
  (ofParts_eq_some h).1

theorem unsigned_of_fitFrom {n dropped places : Nat} {d : Decimal} (h : fitFrom false n dropped places = some d) :
    d.negative = false := by
  induction places generalizing dropped with
  | zero => exact unsigned_of_ofMagnitude h
  | succ places ih =>
    rw [fitFrom] at h
    split at h
    · rename_i hsome
      cases h
      exact unsigned_of_ofMagnitude hsome
    · exact ih h

theorem zero_le_of_fit {n scale : Nat} {d : Decimal} (h : fit false n scale = some d) : zero ≤ d :=
  zero_le_iff.mpr (.inr (unsigned_of_fitFrom h))

/-! ## Operations -/

/-- A number that is neither zero nor below it has no sign. -/
theorem unsigned_of_zero_le {d : Decimal} (h : zero ≤ d) (hne : ¬d.isZero = true) : d.negative = false :=
  (zero_le_iff.mp h).resolve_left hne

theorem zero_le_zero : zero ≤ zero := zero_le_iff.mpr (.inl rfl)

theorem zero_le_rescaled {d : Decimal} (h : zero ≤ d) (scale : Nat) : 0 ≤ d.rescaled scale :=
  Int.mul_nonneg (zero_le_iff_signed.mp h) (Int.natCast_nonneg _)

theorem zero_le_add {a b d : Decimal} (ha : zero ≤ a) (hb : zero ≤ b) (h : a.add b = some d) : zero ≤ d := by
  unfold add at h
  split_ifs at h with hza hzb
  · cases h
    exact hb
  · cases h
    exact ha
  · have hra := zero_le_rescaled ha (max a.scale b.scale)
    have hrb := zero_le_rescaled hb (max a.scale b.scale)
    have hsign : decide (a.rescaled (max a.scale b.scale) + b.rescaled (max a.scale b.scale) < 0) = false := by
      rw [decide_eq_false_iff_not]
      omega
    simp only [hsign] at h
    exact zero_le_of_fit h

theorem zero_le_mul {a b d : Decimal} (ha : zero ≤ a) (hb : zero ≤ b) (h : a.mul b = some d) : zero ≤ d := by
  unfold mul at h
  split_ifs at h with hzero
  · cases h
    exact zero_le_zero
  · rw [Bool.or_eq_true, not_or] at hzero
    rw [unsigned_of_zero_le ha hzero.1, unsigned_of_zero_le hb hzero.2] at h
    exact zero_le_of_fit h

theorem zero_le_hundredth {a d : Decimal} (ha : zero ≤ a) (h : a.hundredth = some d) : zero ≤ d := by
  unfold hundredth at h
  split_ifs at h with hzero hundred ten
  · cases h
    exact zero_le_zero
  · rw [unsigned_of_zero_le ha hzero] at h
    exact zero_le_iff.mpr (.inr (ofParts_eq_some h).1)
  · rw [unsigned_of_zero_le ha hzero] at h
    exact zero_le_of_fit h
  · rw [unsigned_of_zero_le ha hzero] at h
    exact zero_le_of_fit h

theorem zero_le_foldlM_add {ds : List Decimal} {a d : Decimal} (ha : zero ≤ a) (hs : ∀ e ∈ ds, zero ≤ e)
    (h : ds.foldlM add a = some d) : zero ≤ d := by
  induction ds generalizing a with
  | nil =>
    cases h
    exact ha
  | cons b ds ih =>
    rw [List.foldlM_cons] at h
    obtain ⟨c, hc, hd⟩ := Option.bind_eq_some_iff.mp h
    obtain ⟨hb, hrest⟩ := List.forall_mem_cons.mp hs
    exact ih (zero_le_add ha hb hc) hrest hd

theorem zero_le_sum {ds : List Decimal} {d : Decimal} (hs : ∀ e ∈ ds, zero ≤ e) (h : sum ds = some d) : zero ≤ d :=
  zero_le_foldlM_add zero_le_zero hs h

/-! ## Numbers -/

theorem zero_le_ofNat {n : Nat} {d : Decimal} (h : ofNat n = some d) : zero ≤ d :=
  zero_le_iff.mpr (.inr (ofParts_eq_some h).1)

theorem zero_le_ofScaled {m places : Nat} {d : Decimal} (h : ofScaled false m places = some d) : zero ≤ d := by
  unfold ofScaled at h
  dsimp only at h
  split_ifs at h with hzero
  · cases h
    exact zero_le_zero
  · obtain ⟨parts, hparts, rfl⟩ := Option.map_eq_some_iff.mp h
    exact zero_le_iff.mpr (.inr (ofParts_eq_some hparts).1)

theorem zero_le_ofBinary64 {x : Binary64} (hx : x.negative = false) {d : Decimal} (h : ofBinary64 x = some d) :
    zero ≤ d := by
  unfold ofBinary64 at h
  rw [hx] at h
  split_ifs at h with hzero he
  · cases h
    exact zero_le_zero
  · exact zero_le_iff.mpr (.inr (ofParts_eq_some h).1)
  · exact zero_le_ofScaled h

end Tariff.Decimal
