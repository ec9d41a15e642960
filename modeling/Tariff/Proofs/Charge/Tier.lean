/-
  Tariff.Proofs.Charge.Tier — which tier the cases of an order fall into.

  The first range of a table that holds the case total gives the multiplier; the ranges behind
  it do not count (`FirstMatch`). A total above zero is never that of excluded SKUs only, so the
  guard for these takes no tier away (`multiplier_of_summary`). In a table whose ranges are apart
  one range at most holds a total, and then neither the order of the table counts nor that of the
  ledger, as long as the cases add up exactly.
  - `excludedOnly_of_pos` / `value_eq_of_exact`: case totals.
  - `lookup_eq_some_iff` / `lookup_behind`: the first range.
  - `apart_iff` / `lookup_perm`: ranges that are apart.
  - `multiplier_eq_ok_iff` / `multiplier_reordered_of_fits`
  - `first_match_and_perm`
  Neither condition can go: `overlapping_by_order` is a table with a shared number, and in
  `rounded_by_order` the order of the ledger decides what is rounded off.
-/
import Mathlib.Data.List.Pairwise
import Tariff.Charge
import Tariff.Proofs.Decimal.Exact
import Tariff.Proofs.Sku.Spelling
import Tariff.Proofs.Sku.Totals

namespace Tariff

/-! ## Case totals -/

namespace Sku.Ledger

variable {l l' : Ledger} {excluded : Table Unit} {s s' : CaseSummary}

/-- Nothing is added up where all SKUs are excluded. -/
theorem excludedOnly_of_pos (h : l.caseSummary excluded = .ok s) (hpos : .zero < s.totalCases) :
    s.excludedOnly = false := by
  obtain ⟨hsum, honly⟩ := caseSummary_eq_ok_iff.mp h
  rw [honly, Bool.and_eq_false_imp]
  intro _
  refine Bool.eq_false_iff.mpr fun hnone => ?_
  rw [caseDecimals, countedCases, List.isEmpty_iff.mp hnone] at hsum
  have hzero : Decimal.zero = s.totalCases := Option.some.inj hsum
  rw [← hzero] at hpos
  exact absurd hpos (by decide)

/-- The total of the summary is the sum of the cases, with nothing rounded off. -/
def Exact (l : Ledger) (excluded : Table Unit) (s : CaseSummary) : Prop :=
  l.caseSummary excluded = .ok s ∧ s.totalCases.value = Decimal.exactSum (l.caseDecimals excluded)

theorem caseDecimals_perm (h : l'.entries.Perm l.entries) (excluded : Table Unit) :
    (l'.caseDecimals excluded).Perm (l.caseDecimals excluded) :=
  ((h.filter _).map _).map _

theorem value_eq_of_exact (h : l'.entries.Perm l.entries) (hs : l.Exact excluded s) (hs' : l'.Exact excluded s') :
    s'.totalCases.value = s.totalCases.value := by
  rw [hs'.2, hs.2, Decimal.exactSum_perm (caseDecimals_perm h excluded)]

/-- Cases that fit together add up exactly, in this order and in any other. -/
theorem exact_of_fits {places : Nat} (hscale : ∀ d ∈ l.caseDecimals excluded, d.scale ≤ places)
    (hfits : Decimal.Fits places (Decimal.magnitude (l.caseDecimals excluded))) (h : l'.entries.Perm l.entries) :
    ∃ s', l'.Exact excluded s' := by
  have hperm := caseDecimals_perm h excluded
  rw [← Decimal.magnitude_perm hperm] at hfits
  obtain ⟨d, hd, hvalue, -⟩ := Decimal.sum_of_fits (fun e he => hscale e (hperm.mem_iff.mp he)) hfits
  exact ⟨⟨d, _⟩, caseSummary_eq_ok_iff.mpr ⟨hd, rfl⟩, hvalue⟩

end Sku.Ledger

/-! ## Ranges -/

namespace TierRange

variable {r q : TierRange} {d e : Decimal}

def Holds (r : TierRange) (d : Decimal) : Prop := r.min ≤ d ∧ d ≤ r.max

theorem contains_iff : r.contains d = true ↔ r.Holds d := by
  rw [contains, Bool.and_eq_true, decide_eq_true_eq, decide_eq_true_eq, Holds]

theorem not_contains_iff : r.contains d = false ↔ ¬r.Holds d := by
  rw [← contains_iff, Bool.not_eq_true]

theorem holds_congr (h : d.value = e.value) : r.Holds d ↔ r.Holds e := by
  simp only [Holds, Decimal.le_def, h]

/-- No number is in both ranges. -/
def Apart (r q : TierRange) : Prop := ∀ d, ¬(r.Holds d ∧ q.Holds d)

theorem Apart.symm (h : r.Apart q) : q.Apart r := fun d hd => h d hd.symm

/-- One range ends before the other begins, or is empty. -/
theorem apart_iff : r.Apart q ↔ r.max < q.min ∨ q.max < r.min ∨ r.max < r.min ∨ q.max < q.min := by
  constructor
  · intro h
    by_contra hnone
    simp only [Decimal.lt_def, not_or, not_lt] at hnone
    obtain ⟨hrq, hqr, hr, hq⟩ := hnone
    -- otherwise the larger of the lower bounds is in both
    rcases le_total r.min.value q.min.value with hmin | hmin
    · exact h q.min ⟨⟨hmin, hrq⟩, le_refl q.min.value, hq⟩
    · exact h r.min ⟨⟨le_refl r.min.value, hr⟩, hmin, hqr⟩
  · rintro h d ⟨⟨hrmin, hrmax⟩, hqmin, hqmax⟩
    simp only [Decimal.lt_def] at h
    rw [Decimal.le_def] at hrmin hrmax hqmin hqmax
    rcases h with h | h | h | h <;> linarith

instance : DecidableRel Apart := fun _ _ => decidable_of_iff _ apart_iff.symm

end TierRange

namespace TierTable

variable {ranges ranges' before after : List TierRange} {r : TierRange} {d e m : Decimal}

/-! ## The first range -/

/-- The range holds the number, and none in front of it does. -/
def First (ranges : List TierRange) (d : Decimal) (r : TierRange) : Prop :=
  ∃ before after, ranges = before ++ r :: after ∧ r.Holds d ∧ ∀ q ∈ before, ¬q.Holds d

theorem find?_eq_some_iff : ranges.find? (·.contains d) = some r ↔ First ranges d r := by
  simp only [List.find?_eq_some_iff_append, Bool.not_eq_true', TierRange.contains_iff, TierRange.not_contains_iff]
  constructor
  · rintro ⟨hr, before, after, heq, hbefore⟩
    exact ⟨before, after, heq, hr, hbefore⟩
  · rintro ⟨before, after, heq, hr, hbefore⟩
    exact ⟨hr, before, after, heq, hbefore⟩

theorem First.mem (h : First ranges d r) : r ∈ ranges := by
  obtain ⟨before, after, rfl, -⟩ := h
  simp

theorem First.holds (h : First ranges d r) : r.Holds d := by
  obtain ⟨-, -, -, hr, -⟩ := h
  exact hr

theorem exists_first_iff : (∃ r, First ranges d r) ↔ ∃ r ∈ ranges, r.Holds d := by
  constructor
  · rintro ⟨r, h⟩
    exact ⟨r, h.mem, h.holds⟩
  · rintro ⟨r, hr, hd⟩
    have hsome : (ranges.find? (·.contains d)).isSome = true :=
      List.find?_isSome.mpr ⟨r, hr, TierRange.contains_iff.mpr hd⟩
    obtain ⟨q, hq⟩ := Option.isSome_iff_exists.mp hsome
    exact ⟨q, find?_eq_some_iff.mp hq⟩

def lookup (ranges : List TierRange) (d : Decimal) : Option Decimal :=
  if .zero < d then (ranges.find? (·.contains d)).map (·.multiplier) else none

theorem lookup_eq_some_iff :
    lookup ranges d = some m ↔ .zero < d ∧ ∃ r, First ranges d r ∧ r.multiplier = m := by
  unfold lookup
  split_ifs with h
  · simp only [Option.map_eq_some_iff, find?_eq_some_iff, h, true_and]
  · simp [h]

theorem lookup_behind (h : r.Holds d) (after' : List TierRange) :
    lookup (before ++ r :: after) d = lookup (before ++ r :: after') d := by
  have hfind : ∀ rest, (r :: rest).find? (·.contains d) = some r := by
    intro rest
    exact List.find?_cons_of_pos (TierRange.contains_iff.mpr h)
  rw [lookup, lookup, List.find?_append, List.find?_append, hfind, hfind]

theorem lookup_congr (h : d.value = e.value) : lookup ranges d = lookup ranges e := by
  have hcontains : ∀ r : TierRange, r.contains d = r.contains e := by
    intro r
    rw [Bool.eq_iff_iff, TierRange.contains_iff, TierRange.contains_iff, TierRange.holds_congr h]
  simp only [lookup, hcontains, Decimal.lt_def, h]

/-! ## Ranges that are apart -/

def Disjoint (ranges : List TierRange) : Prop := ranges.Pairwise TierRange.Apart

instance : Decidable (Disjoint ranges) := inferInstanceAs (Decidable (ranges.Pairwise TierRange.Apart))

/-- The range that holds a number is the first one that does, wherever it stands. -/
theorem first_iff_of_disjoint (h : Disjoint ranges) : First ranges d r ↔ r ∈ ranges ∧ r.Holds d := by
  constructor
  · intro hfirst
    exact ⟨hfirst.mem, hfirst.holds⟩
  · rintro ⟨hr, hd⟩
    obtain ⟨before, after, rfl⟩ := List.append_of_mem hr
    refine ⟨before, after, rfl, hd, fun q hq hqd => ?_⟩
    have hapart := (List.pairwise_append.mp h).2.2 q hq r List.mem_cons_self
    exact hapart d ⟨hqd, hd⟩

theorem Disjoint.perm (h : Disjoint ranges) (hp : ranges'.Perm ranges) : Disjoint ranges' :=
  (hp.pairwise_iff fun hr => hr.symm).mpr h

theorem lookup_perm (h : Disjoint ranges) (hp : ranges'.Perm ranges) (d : Decimal) :
    lookup ranges' d = lookup ranges d := by
  refine Option.ext fun m => ?_
  simp only [lookup_eq_some_iff, first_iff_of_disjoint h, first_iff_of_disjoint (h.perm hp), hp.mem_iff]

/-! ## The multiplier of an order -/

variable {t t' : TierTable} {l l' : Sku.Ledger} {s : Sku.CaseSummary}

theorem resolve_of_summary (h : t.summary l = .ok s) (ranges : List TierRange) :
    resolve ranges s = lookup ranges s.totalCases := by
  unfold resolve lookup
  by_cases hpos : .zero < s.totalCases
  · have honly := Sku.Ledger.excludedOnly_of_pos h hpos
    have hle : ¬s.totalCases ≤ .zero := Rat.not_le.mpr hpos
    rw [if_pos hpos, if_neg (by simp [honly, hle])]
  · have hle : s.totalCases ≤ .zero := Rat.not_lt.mp hpos
    rw [if_neg hpos, if_pos (by simp [hle])]

theorem multiplier_of_summary (h : t.summary l = .ok s) :
    t.multiplier l = .ok (lookup t.ranges s.totalCases) := by
  rw [multiplier, h, Except.map, resolve_of_summary h]

/-- An answer is the one for the sum of the cases. -/
theorem multiplier_eq_ok_iff {found : Option Decimal} :
    t.multiplier l = .ok found ↔
      (Decimal.sum (l.caseDecimals (Sku.setOf t.excludedSkus))).map (lookup t.ranges) = some found := by
  cases hs : t.summary l with
  | ok s =>
    have hsum := (Sku.Ledger.caseSummary_eq_ok_iff.mp hs).1
    rw [multiplier_of_summary hs, hsum, Option.map_some, Except.ok.injEq, Option.some.injEq]
  | error err =>
    rw [multiplier, hs]
    rw [summary, Sku.Ledger.caseSummary_eq] at hs
    cases hsum : Decimal.sum (l.caseDecimals (Sku.setOf t.excludedSkus)) with
    | none => simp [Except.map]
    | some d => simp [hsum, Except.map] at hs

structure FirstMatch (t : TierTable) (l : Sku.Ledger) (s : Sku.CaseSummary) : Prop where
  /-- There is an answer, which may be that there is no multiplier. -/
  answer : ∃ found, t.multiplier l = .ok found
  found_iff : (∃ m, t.multiplier l = .ok (some m)) ↔ .zero < s.totalCases ∧ ∃ r ∈ t.ranges, r.Holds s.totalCases
  first : ∀ m, t.multiplier l = .ok (some m) → ∃ r, First t.ranges s.totalCases r ∧ r.multiplier = m
  /-- Whatever is put behind a range that holds the total. -/
  behind : ∀ before r after, t.ranges = before ++ r :: after → r.Holds s.totalCases →
    ∀ after', multiplier ⟨before ++ r :: after', t.excludedSkus⟩ l = t.multiplier l
  /-- The guard for excluded SKUs is not met by a total above zero. -/
  counted : .zero < s.totalCases → s.excludedOnly = false

theorem firstMatch_of_summary (h : t.summary l = .ok s) : FirstMatch t l s := by
  have hok := multiplier_of_summary h
  have hsome : ∀ m, t.multiplier l = .ok (some m) ↔
      .zero < s.totalCases ∧ ∃ r, First t.ranges s.totalCases r ∧ r.multiplier = m := by
    intro m
    rw [hok, Except.ok.injEq, lookup_eq_some_iff]
  refine ⟨⟨_, hok⟩, ?_, fun m hm => ((hsome m).mp hm).2, ?_, Sku.Ledger.excludedOnly_of_pos h⟩
  · simp only [hsome, ← exists_first_iff]
    constructor
    · rintro ⟨m, hpos, r, hr, -⟩
      exact ⟨hpos, r, hr⟩
    · rintro ⟨hpos, r, hr⟩
      exact ⟨r.multiplier, hpos, r, hr, rfl⟩
  · intro before r after hranges hr after'
    have hsame : summary ⟨before ++ r :: after', t.excludedSkus⟩ l = .ok s := h
    rw [multiplier_of_summary hsame, hok, hranges, lookup_behind hr]

/-- The same ranges in any order, and the same excluded SKUs in any order and any number of times. -/
structure Rearranged (t t' : TierTable) : Prop where
  ranges : t'.ranges.Perm t.ranges
  excludedSkus : Sku.SameSkus t'.excludedSkus t.excludedSkus

def ExactTotal (t : TierTable) (l : Sku.Ledger) : Prop := ∃ s, l.Exact (Sku.setOf t.excludedSkus) s

theorem summary_rearranged (h : Rearranged t t') (l : Sku.Ledger) : t'.summary l = t.summary l := by
  rw [summary, summary, Sku.setOf_of_sameSkus h.excludedSkus]

theorem multiplier_rearranged (h : Rearranged t t') (hd : Disjoint t.ranges) (l : Sku.Ledger) :
    t'.multiplier l = t.multiplier l := by
  have hsummary := summary_rearranged h l
  cases hs : t.summary l with
  | error err => rw [multiplier, multiplier, hsummary, hs, Except.map, Except.map]
  | ok s =>
    rw [multiplier_of_summary hs, multiplier_of_summary (hsummary.trans hs), lookup_perm hd h.ranges]

theorem multiplier_reordered (h : l'.entries.Perm l.entries) (hl : t.ExactTotal l) (hl' : t.ExactTotal l') :
    t.multiplier l' = t.multiplier l := by
  obtain ⟨s, hs⟩ := hl
  obtain ⟨s', hs'⟩ := hl'
  rw [multiplier_of_summary hs.1, multiplier_of_summary hs'.1, lookup_congr (Sku.Ledger.value_eq_of_exact h hs hs')]

/-- Cases that fit together may come in any order. -/
theorem multiplier_reordered_of_fits {places : Nat}
    (hscale : ∀ d ∈ l.caseDecimals (Sku.setOf t.excludedSkus), d.scale ≤ places)
    (hfits : Decimal.Fits places (Decimal.magnitude (l.caseDecimals (Sku.setOf t.excludedSkus))))
    (h : l'.entries.Perm l.entries) : t.multiplier l' = t.multiplier l :=
  multiplier_reordered h (Sku.Ledger.exact_of_fits hscale hfits (.refl _)) (Sku.Ledger.exact_of_fits hscale hfits h)

namespace Small

def number (n : Nat) : Decimal := (Decimal.ofNat n).getD .zero

def line (sku : String) (cases : Sku.Quantity) : Sku.Entry := ⟨sku, Sku.canonical sku, .whole 1, cases⟩

def stepped : TierTable := ⟨[⟨number 1, number 3, number 5⟩, ⟨number 4, number 6, number 7⟩], ["pallet-wrap"]⟩

def steppedBack : TierTable := ⟨stepped.ranges.reverse, ["Pallet-Wrap", "pallet wrap"]⟩

def six : Sku.Ledger := ⟨[line "A" (.whole 2), line "PALLET WRAP" (.whole 40), line "B" (.whole 4)]⟩

def sixBack : Sku.Ledger := ⟨six.entries.reverse⟩

def overlapping : TierTable := ⟨[⟨number 1, number 4, number 5⟩, ⟨number 4, number 6, number 7⟩], []⟩

def overlappingBack : TierTable := ⟨overlapping.ranges.reverse, []⟩

def four : Sku.Ledger := ⟨[line "A" (.whole 4)]⟩

def capped : TierTable := ⟨[⟨number 1, number 10000000000000000000, number 5⟩], []⟩

/-- 4e-10 cases. -/
def crumb : Sku.Quantity := .fractional ⟨false, 7737125245533627, -84⟩

/-- Next to 1e19 there is room for nine places. -/
def crumbsLast : Sku.Ledger := ⟨[line "A" (.whole 10000000000000000000), line "B" crumb, line "C" crumb]⟩

def crumbsFirst : Sku.Ledger := ⟨crumbsLast.entries.reverse⟩

end Small

/-- The first range that holds the case total gives the multiplier, without regard to those behind it. Where the
    ranges are apart, the order of the table and of the ledger do not count. -/
theorem first_match_and_perm (t : TierTable) (l : Sku.Ledger) :
    (∀ s, t.summary l = .ok s → FirstMatch t l s) ∧
      (Disjoint t.ranges → ∀ t', Rearranged t t' →
        t'.multiplier l = t.multiplier l ∧
          ∀ l' : Sku.Ledger, l'.entries.Perm l.entries → t.ExactTotal l → t.ExactTotal l' →
            t'.multiplier l' = t.multiplier l) := by
  refine ⟨fun s => firstMatch_of_summary, fun hdisjoint t' ht' => ⟨multiplier_rearranged ht' hdisjoint l, ?_⟩⟩
  intro l' hperm hl hl'
  rw [multiplier_rearranged ht' hdisjoint l', multiplier_reordered hperm hl hl']

/-- Both orders have six cases that count, and six is still in the second tier. -/
theorem first_match_and_perm_six :
    FirstMatch Small.stepped Small.six ⟨Small.number 6, false⟩ ∧
      Small.stepped.multiplier Small.six = .ok (some (Small.number 7)) ∧
      Small.steppedBack.multiplier Small.six = Small.stepped.multiplier Small.six ∧
      Small.steppedBack.multiplier Small.sixBack = Small.stepped.multiplier Small.six := by
  have hrearranged : Rearranged Small.stepped Small.steppedBack := ⟨List.reverse_perm _, by decide +kernel⟩
  have hexact : Small.six.Exact (Sku.setOf Small.stepped.excludedSkus) ⟨Small.number 6, false⟩ :=
    ⟨Sku.Ledger.caseSummary_eq_ok_iff.mpr (by decide +kernel), by decide +kernel⟩
  have hback : Small.sixBack.Exact (Sku.setOf Small.stepped.excludedSkus) ⟨Small.number 6, false⟩ :=
    ⟨Sku.Ledger.caseSummary_eq_ok_iff.mpr (by decide +kernel), by decide +kernel⟩
  obtain ⟨hfirst, horder⟩ := first_match_and_perm Small.stepped Small.six
  obtain ⟨htable, hledger⟩ := horder (by decide +kernel) Small.steppedBack hrearranged
  exact ⟨hfirst _ hexact.1, multiplier_eq_ok_iff.mpr (by decide +kernel), htable,
    hledger Small.sixBack (List.reverse_perm _) ⟨_, hexact⟩ ⟨_, hback⟩⟩

theorem overlapping_by_order :
    Rearranged Small.overlapping Small.overlappingBack ∧ ¬Disjoint Small.overlapping.ranges ∧
      Small.overlapping.multiplier Small.four = .ok (some (Small.number 5)) ∧
      Small.overlappingBack.multiplier Small.four = .ok (some (Small.number 7)) :=
  ⟨⟨List.reverse_perm _, by decide⟩, by decide +kernel, multiplier_eq_ok_iff.mpr (by decide +kernel),
    multiplier_eq_ok_iff.mpr (by decide +kernel)⟩

/-- Two crumbs are rounded off one by one, and together are rounded up. -/
theorem rounded_by_order :
    Disjoint Small.capped.ranges ∧ Small.crumbsFirst.entries.Perm Small.crumbsLast.entries ∧
      Small.capped.multiplier Small.crumbsLast = .ok (some (Small.number 5)) ∧
      Small.capped.multiplier Small.crumbsFirst = .ok none :=
  ⟨by decide +kernel, List.reverse_perm _, multiplier_eq_ok_iff.mpr (by decide +kernel),
    multiplier_eq_ok_iff.mpr (by decide +kernel)⟩

end TierTable

end Tariff
