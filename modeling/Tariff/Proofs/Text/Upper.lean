/-
  Tariff.Proofs.Text.Upper — upper case is settled.

  What the case data turns a character into is left alone by it: no code point that it leads
  to is one that it moves. That is a fact about the whole table. It is checked on two sets of
  code points, each held as the bits of one number.
  - `upper_cases`: a character is its own upper case, or one that the data moves.
  - `upper_of_mem_upper`
  - `eq_of_mem_upper_of_separator`: nothing else becomes a blank or a hyphen.
-/
import Mathlib.Tactic.SplitIfs
import Tariff.Numeral
import Tariff.Text

namespace Tariff.Text

/-! ## Sets of code points -/

/-- The number whose bits are the members of the list. -/
def bits (ns : List Nat) : Nat := ns.foldr (fun n m => twoTo n ||| m) 0

theorem testBit_bits {ns : List Nat} {k : Nat} : (bits ns).testBit k = true ↔ k ∈ ns := by
  induction ns with
  | nil => simp [bits]
  | cons n ns ih =>
    have hpower : (twoTo n).testBit k = decide (n = k) := Nat.testBit_two_pow
    rw [bits, List.foldr_cons, ← bits, Nat.testBit_or, hpower, Bool.or_eq_true, decide_eq_true_eq, ih, List.mem_cons,
      eq_comm]

/-- Numbers without a bit in common are lists without a member in common. -/
theorem not_mem_of_bits {ns ms : List Nat} (h : bits ns &&& bits ms = 0) {k : Nat} (hk : k ∈ ms) : k ∉ ns := by
  intro hn
  have hboth : (bits ns &&& bits ms).testBit k = true := by
    rw [Nat.testBit_and, testBit_bits.mpr hn, testBit_bits.mpr hk, Bool.and_self]
  rw [h, Nat.zero_testBit] at hboth
  cases hboth

/-! ## What the case data moves, and where to -/

def sourcesOf : Nat × Nat × Nat × Int → List Nat
  | (first, last, step, _) => (List.range ((last - first) / step + 1)).map (first + step * ·)

def targetsOf (e : Nat × Nat × Nat × Int) : List Char :=
  (sourcesOf e).map fun (n : Nat) => Char.ofNat ((n : Int) + e.2.2.2).toNat

def sources : List Nat := upperShifts.flatMap sourcesOf ++ upperExpansions.map (·.1)

def targets : List Char := upperShifts.flatMap targetsOf ++ upperExpansions.flatMap fun e => e.2.map Char.ofNat

def separators : List Nat :=
  List.range' 9 5 ++ [0x20, 0x2D, 0x85, 0xA0, 0x1680] ++ List.range' 0x2000 11 ++ [0x2028, 0x2029, 0x202F, 0x205F, 0x3000]

/-- No target is a source, or a blank or hyphen. -/
theorem bits_targets : bits (separators ++ sources) &&& bits (targets.map Char.toNat) = 0 := by
  decide +kernel

theorem not_mem_of_mem_targets {d : Char} (h : d ∈ targets) : d.toNat ∉ separators ∧ d.toNat ∉ sources := by
  have hnot := not_mem_of_bits bits_targets (List.mem_map_of_mem h)
  rwa [List.mem_append, not_or] at hnot

/-! ## Upper case -/

theorem mem_sourcesOf {first last step n : Nat} (shift : Int) (hfirst : first ≤ n) (hlast : n ≤ last)
    (hstep : (n - first) % step = 0) : n ∈ sourcesOf (first, last, step, shift) := by
  refine List.mem_map.mpr ⟨(n - first) / step, ?_, ?_⟩
  · have hle : (n - first) / step ≤ (last - first) / step := Nat.div_le_div_right (by omega)
    exact List.mem_range.mpr (by omega)
  · have hn := Nat.mul_div_cancel' (Nat.dvd_of_mod_eq_zero hstep)
    omega

theorem shifted_cases (shifts : List (Nat × Nat × Nat × Int)) (c : Char) :
    shifted shifts c = c ∨ ∃ e ∈ shifts, c.toNat ∈ sourcesOf e ∧ shifted shifts c ∈ targetsOf e := by
  unfold shifted
  dsimp only
  split
  case h_1 first last step shift hfind =>
    have hmoves := List.find?_some hfind
    simp only [Bool.and_eq_true, decide_eq_true_eq, beq_iff_eq] at hmoves
    obtain ⟨⟨hfirst, hlast⟩, hstep⟩ := hmoves
    have hsource := mem_sourcesOf shift hfirst hlast hstep
    exact .inr ⟨_, List.mem_of_find?_eq_some hfind, hsource, List.mem_map_of_mem hsource⟩
  case h_2 => exact .inl rfl

/-- The letters a to z are in the data too, in its first entry. -/
theorem toUpper_cases (c : Char) : c.toUpper = c ∨ c.toNat ∈ sources ∧ c.toUpper ∈ targets := by
  by_cases h : 97 ≤ c.toNat ∧ c.toNat ≤ 122
  · have hsource : c.toNat ∈ sourcesOf (0x61, 0x7A, 1, -32) := mem_sourcesOf (-32) h.1 h.2 (Nat.mod_one _)
    have hupper : ∀ n ∈ List.range' 97 26, (Char.ofNat n).toUpper = Char.ofNat ((n : Int) + -32).toNat := by decide
    have htarget : c.toUpper ∈ targetsOf (0x61, 0x7A, 1, -32) := by
      refine List.mem_map.mpr ⟨c.toNat, hsource, ?_⟩
      rw [← hupper c.toNat (List.mem_range'_1.mpr (by omega)), Char.ofNat_toNat]
    have hentry : (0x61, 0x7A, 1, -32) ∈ upperShifts := List.mem_cons_self
    exact .inr ⟨List.mem_append_left _ (List.mem_flatMap.mpr ⟨_, hentry, hsource⟩),
      List.mem_append_left _ (List.mem_flatMap.mpr ⟨_, hentry, htarget⟩)⟩
  · refine .inl (dif_neg ?_)
    rintro ⟨hfirst, hlast⟩
    exact h ⟨hfirst, hlast⟩

/-- A character is its own upper case, or one that the data moves to its upper case. -/
theorem upper_cases (c : Char) : upper c = [c] ∨ c.toNat ∈ sources ∧ ∀ d ∈ upper c, d ∈ targets := by
  unfold upper
  split_ifs
  · exact (toUpper_cases c).imp (fun h => by rw [h]) fun h => ⟨h.1, by simpa using h.2⟩
  · split
    case h_1 ns hlookup =>
      obtain ⟨before, after, hsplit, -⟩ := List.lookup_eq_some_iff.mp hlookup
      have hentry : (c.toNat, ns) ∈ upperExpansions := by
        rw [hsplit]
        exact List.mem_append_right _ List.mem_cons_self
      refine .inr ⟨List.mem_append_right _ (List.mem_map_of_mem hentry), fun d hd => ?_⟩
      exact List.mem_append_right _ (List.mem_flatMap.mpr ⟨_, hentry, hd⟩)
    case h_2 =>
      rcases shifted_cases upperShifts c with h | ⟨e, he, hsource, htarget⟩
      · exact .inl (by rw [h])
      · refine .inr ⟨List.mem_append_left _ (List.mem_flatMap.mpr ⟨e, he, hsource⟩), fun d hd => ?_⟩
        rw [List.mem_singleton.mp hd]
        exact List.mem_append_left _ (List.mem_flatMap.mpr ⟨e, he, htarget⟩)

/-- Upper case is in upper case. -/
theorem upper_of_mem_upper {c d : Char} (h : d ∈ upper c) : upper d = [d] := by
  rcases upper_cases c with hself | ⟨-, htargets⟩
  · rw [hself, List.mem_singleton] at h
    rw [h, hself]
  · have hd := (not_mem_of_mem_targets (htargets d h)).2
    exact (upper_cases d).resolve_right fun hmoved => hd hmoved.1

/-- A blank or hyphen is in the upper case of no other character. -/
theorem eq_of_mem_upper_of_separator {c d : Char} (h : d ∈ upper c) (hd : d.toNat ∈ separators) : d = c := by
  rcases upper_cases c with hself | ⟨-, htargets⟩
  · rwa [hself, List.mem_singleton] at h
  · exact absurd hd (not_mem_of_mem_targets (htargets d h)).1

end Tariff.Text
