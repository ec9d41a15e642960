/-
  Tariff.Proofs.Sku.Merging — merging the lines of a SKU loses nothing.

  The quantities of a ledger, the quantity of some SKUs and the case summary are three
  loops over its lines. While all amounts are whole and come to less than 2^64 (`Whole`),
  each gives the sums of its lines, so the three agree and do not depend on the order of
  the lines. Fractions are binary64 numbers, whose sums do (`fractions_not_perm`).
  - `get?_quantities` / `mem_names_quantities`: the lines of one SKU, whatever the amounts.
  - `tally_fibers`: sums SKU by SKU, and over the SKUs.
  - `Agree`: what the totals give; `agree_of_whole`.
  - `totals_perm` / `merging_lossless`
-/
import Tariff.Proofs.Decimal.Exact
import Tariff.Proofs.Sku.Totals

namespace Tariff.Sku

namespace Quantity

def count : Quantity → Nat
  | .whole n => n
  | _ => 0

theorem add_of_lt {m n : Nat} (h : m + n < wholeBound) : whole m + whole n = whole (m + n) := if_pos h

theorem toDecimal_of_whole {q : Quantity} (h : q = .whole q.count) : q.toDecimal = Decimal.ofNat q.count := by
  rw [h]
  rfl

end Quantity

namespace Ledger

variable {l l' : Ledger} {e : Entry} {es fs : List Entry} {sku : String}

/-! ## Sums of whole amounts -/

def tally (amount : Entry → Quantity) (es : List Entry) : Nat := (es.map fun e => (amount e).count).sum

section

variable (amount : Entry → Quantity)

@[simp] theorem tally_nil : tally amount [] = 0 := rfl

@[simp] theorem tally_cons (e : Entry) (es : List Entry) :
    tally amount (e :: es) = (amount e).count + tally amount es :=
  List.sum_cons

theorem tally_filter_add_filter_not (p : Entry → Bool) (es : List Entry) :
    tally amount (es.filter p) + tally amount (es.filter (!p ·)) = tally amount es := by
  induction es with
  | nil => rfl
  | cons e es ih =>
    rw [tally_cons, ← ih]
    cases h : p e <;> simp [h] <;> omega

theorem tally_filter_le (p : Entry → Bool) (es : List Entry) : tally amount (es.filter p) ≤ tally amount es := by
  have := tally_filter_add_filter_not amount p es
  omega

theorem tally_perm (h : es.Perm fs) : tally amount es = tally amount fs := (h.map _).sum_eq

/-- The lines of some SKUs, SKU by SKU. -/
theorem tally_fibers {skus : List String} (hn : skus.Nodup) (es : List Entry) :
    (skus.map fun sku => tally amount (es.filter (·.sku = sku))).sum = tally amount (es.filter (·.sku ∈ skus)) := by
  induction skus with
  | nil => simp
  | cons sku skus ih =>
    obtain ⟨hsku, hn⟩ := List.nodup_cons.mp hn
    have hself : (es.filter (·.sku ∈ sku :: skus)).filter (·.sku = sku) = es.filter (·.sku = sku) := by
      rw [List.filter_filter]
      refine List.filter_congr fun e _ => ?_
      by_cases h : e.sku = sku <;> simp [h]
    have hothers : (es.filter (·.sku ∈ sku :: skus)).filter (fun e => !decide (e.sku = sku)) =
        es.filter (·.sku ∈ skus) := by
      rw [List.filter_filter]
      refine List.filter_congr fun e _ => ?_
      by_cases h : e.sku = sku
      · simp [h, hsku]
      · simp [h]
    have hsplit := tally_filter_add_filter_not amount (·.sku = sku) (es.filter (·.sku ∈ sku :: skus))
    rw [hself, hothers] at hsplit
    rw [List.map_cons, List.sum_cons, ih hn, hsplit]

end

/-- The amounts are whole, and come to less than 2^64. -/
structure AllWhole (amount : Entry → Quantity) (es : List Entry) : Prop where
  whole : ∀ e ∈ es, amount e = .whole (amount e).count
  lt : tally amount es < Quantity.wholeBound

namespace AllWhole

variable {amount : Entry → Quantity}

theorem filter (h : AllWhole amount es) (p : Entry → Bool) : AllWhole amount (es.filter p) where
  whole := fun e he => h.whole e (List.mem_of_mem_filter he)
  lt := Nat.lt_of_le_of_lt (tally_filter_le amount p es) h.lt

theorem perm (h : AllWhole amount es) (hp : fs.Perm es) : AllWhole amount fs where
  whole := fun e he => h.whole e (hp.mem_iff.mp he)
  lt := by rw [tally_perm _ hp]; exact h.lt

theorem head (h : AllWhole amount (e :: es)) : amount e = .whole (amount e).count := h.whole e List.mem_cons_self

theorem tail (h : AllWhole amount (e :: es)) : AllWhole amount es where
  whole := fun e he => h.whole e (List.mem_cons_of_mem _ he)
  lt := by
    have := h.lt
    rw [tally_cons] at this
    omega

theorem tally_lt (h : AllWhole amount es) : tally amount es < twoTo 96 := Nat.lt_trans h.lt (by decide)

theorem toDecimal_head (h : AllWhole amount (e :: es)) : ∃ d, (amount e).toDecimal = some d := by
  have hlt := h.tally_lt
  rw [tally_cons] at hlt
  exact ⟨_, by rw [Quantity.toDecimal_of_whole h.head, Decimal.ofNat_of_lt (by omega)]⟩

/-- No amount is left out of a sum. -/
theorem filterMap_toDecimal (h : AllWhole amount es) :
    es.filterMap (fun e => (amount e).toDecimal) = es.map fun e => (amount e).toDecimal.getD .zero := by
  induction es with
  | nil => rfl
  | cons e es ih =>
    obtain ⟨d, hd⟩ := h.toDecimal_head
    rw [List.filterMap_cons_some (f := fun e => (amount e).toDecimal) hd, List.map_cons, hd, ih h.tail,
      Option.getD_some]

/-- The sum is not rounded. -/
theorem sum_toDecimal (h : AllWhole amount es) :
    Decimal.sum (es.map fun e => (amount e).toDecimal.getD .zero) = Decimal.ofNat (tally amount es) := by
  rw [tally, ← Decimal.sum_ofNat h.tally_lt, List.map_map]
  congr 1
  refine List.map_congr_left fun e he => ?_
  rw [Quantity.toDecimal_of_whole (h.whole e he), Function.comp]

end AllWhole

/-! ## The lines of one SKU -/

def linesOf (l : Ledger) (sku : String) : List Entry := l.entries.filter (·.sku = sku)

/-- A quantity, and one more line of its SKU. -/
def joined : Option Quantity → Entry → Option Quantity
  | some q, e => some (q + e.quantity)
  | none, e => some e.quantity

theorem get?_addTo (t : Table Quantity) (e : Entry) (sku : String) :
    (addTo t e).get? sku = if e.sku = sku then joined (t.get? sku) e else t.get? sku := by
  rw [addTo, Table.get?_put]
  by_cases h : sku = e.sku
  · subst h
    rw [if_pos rfl, if_pos rfl]
    cases t.get? e.sku <;> rfl
  · rw [if_neg h, if_neg (Ne.symm h)]

theorem get?_foldl_addTo (es : List Entry) (t : Table Quantity) (sku : String) :
    (es.foldl addTo t).get? sku = (es.filter (·.sku = sku)).foldl joined (t.get? sku) := by
  induction es generalizing t with
  | nil => rfl
  | cons e es ih =>
    rw [List.foldl_cons, ih, get?_addTo]
    by_cases h : e.sku = sku <;> simp [h]

/-- The quantity of a SKU is that of its lines, joined in their order. -/
theorem get?_quantities (l : Ledger) (sku : String) :
    l.quantities.get? sku = (l.linesOf sku).foldl joined none :=
  get?_foldl_addTo l.entries .empty sku

theorem foldl_joined_isSome (es : List Entry) (q : Option Quantity) :
    (es.foldl joined q).isSome = (q.isSome || !es.isEmpty) := by
  induction es generalizing q with
  | nil => simp
  | cons e es ih =>
    have hjoined : (joined q e).isSome = true := by cases q <;> rfl
    rw [List.foldl_cons, ih, hjoined]
    simp

theorem mem_names_quantities : sku ∈ l.quantities.names ↔ ∃ e ∈ l.entries, e.sku = sku := by
  rw [Table.mem_names_iff, get?_quantities, foldl_joined_isSome]
  simp [linesOf, List.filter_eq_nil_iff]

theorem foldl_joined {m : Nat} (hwhole : ∀ e ∈ es, e.quantity = .whole e.quantity.count)
    (hlt : m + tally (·.quantity) es < Quantity.wholeBound) :
    es.foldl joined (some (.whole m)) = some (.whole (m + tally (·.quantity) es)) := by
  induction es generalizing m with
  | nil => rfl
  | cons e es ih =>
    obtain ⟨he, hes⟩ := List.forall_mem_cons.mp hwhole
    rw [tally_cons, ← Nat.add_assoc] at hlt ⊢
    rw [List.foldl_cons, joined, he, Quantity.add_of_lt (by omega)]
    exact ih hes hlt

theorem AllWhole.foldl_joined (h : AllWhole (·.quantity) es) (hne : es ≠ []) :
    es.foldl joined none = some (.whole (tally (·.quantity) es)) := by
  cases es with
  | nil => exact absurd rfl hne
  | cons e es =>
    rw [List.foldl_cons, joined, show e.quantity = .whole e.quantity.count from h.head]
    exact Ledger.foldl_joined h.tail.whole h.lt

/-! ## The three totals -/

/-- Quantities and cases are whole, and either sum is below 2^64. -/
structure Whole (l : Ledger) : Prop where
  quantity : AllWhole (·.quantity) l.entries
  cases : AllWhole (·.cases) l.entries

def selected (l : Ledger) (set : Table Unit) : List Entry := l.entries.filter fun e => set.contains e.sku

theorem get?_quantities_of_whole (h : l.Whole) (sku : String) :
    l.quantities.get? sku =
      if ∃ e ∈ l.entries, e.sku = sku then some (.whole (tally (·.quantity) (l.linesOf sku))) else none := by
  have hmem : (∃ e ∈ l.entries, e.sku = sku) ↔ l.linesOf sku ≠ [] := by
    simp [linesOf, List.filter_eq_nil_iff]
  rw [get?_quantities, if_congr hmem rfl rfl]
  split_ifs with hne
  · exact (h.quantity.filter _).foldl_joined hne
  · rw [not_not.mp hne]
    rfl

theorem quantityOf_of_whole (h : l.Whole) (allowed : Table Unit) :
    l.quantityOf allowed =
      Amount.skuQuantityTotal.orOverflow (Decimal.ofNat (tally (·.quantity) (l.selected allowed))) := by
  have hall := h.quantity.filter fun e => allowed.contains e.sku
  rw [quantityOf, hall.filterMap_toDecimal, hall.sum_toDecimal, selected]

theorem caseSummary_of_whole (h : l.Whole) (excluded : Table Unit) :
    l.caseSummary excluded = (Amount.caseTotal.orOverflow (Decimal.ofNat (tally (·.cases) (l.counted excluded)))).map
      fun total => ⟨total, !l.isEmpty && (l.counted excluded).isEmpty⟩ := by
  have hall : AllWhole (·.cases) (l.counted excluded) := h.cases.filter _
  rw [caseSummary_eq, caseDecimals, countedCases, List.map_map, Function.comp_def, hall.sum_toDecimal]

structure Agree (l : Ledger) : Prop where
  /-- The quantities are under the SKUs of the lines. -/
  names : ∀ sku, sku ∈ l.quantities.names ↔ ∃ e ∈ l.entries, e.sku = sku
  /-- A SKU has the whole quantity that its lines come to. -/
  quantity : ∀ sku ∈ l.quantities.names,
    l.quantities.get? sku = some (.whole (tally (·.quantity) (l.linesOf sku)))
  /-- The quantity of some SKUs is what their quantities come to. -/
  quantityOf : ∀ allowed, ∃ d, l.quantityOf allowed = .ok d ∧
    d.value = ((l.quantities.entries.filter fun t => allowed.contains t.1).map fun t => t.2.count).sum
  /-- Cases that count and cases of excluded SKUs are all cases. -/
  cases : ∀ excluded, ∃ s, l.caseSummary excluded = .ok s ∧
    s.totalCases.value + tally (·.cases) (l.selected excluded) = tally (·.cases) l.entries ∧
    (s.excludedOnly = true ↔ l.entries ≠ [] ∧ ∀ e ∈ l.entries, excluded.contains e.sku = true)

/-- Selected quantities come to what the lines of the selected SKUs come to. -/
theorem sum_counts_of_whole (h : l.Whole) (allowed : Table Unit) :
    ((l.quantities.entries.filter fun t => allowed.contains t.1).map fun t => t.2.count).sum =
      tally (·.quantity) (l.selected allowed) := by
  have hcounts : (l.quantities.entries.filter fun t => allowed.contains t.1).map (fun t => t.2.count) =
      (l.quantities.names.filter allowed.contains).map fun sku => tally (·.quantity) (l.linesOf sku) := by
    rw [Table.names, List.filter_map, List.map_map]
    refine List.map_congr_left fun t ht => ?_
    have hget := (l.quantities.mem_entries_iff t.1 t.2).mp (List.mem_of_mem_filter ht)
    rw [get?_quantities_of_whole h] at hget
    split_ifs at hget
    rw [← Option.some.inj hget]
    rfl
  have hselected : l.entries.filter (·.sku ∈ l.quantities.names.filter allowed.contains) = l.selected allowed := by
    refine List.filter_congr fun e he => ?_
    rw [Bool.eq_iff_iff, decide_eq_true_eq, List.mem_filter, mem_names_quantities]
    exact and_iff_right ⟨e, he, rfl⟩
  rw [hcounts, ← hselected]
  exact tally_fibers _ (l.quantities.names_nodup.filter _) l.entries

theorem agree_of_whole (h : l.Whole) : l.Agree where
  names := fun _ => mem_names_quantities
  quantity := by
    intro sku hsku
    rw [get?_quantities_of_whole h, if_pos (mem_names_quantities.mp hsku)]
  quantityOf := by
    intro allowed
    have hd := Decimal.ofNat_of_lt (h.quantity.filter fun e => allowed.contains e.sku).tally_lt
    refine ⟨_, by rw [quantityOf_of_whole h, selected, hd, Amount.orOverflow_some], ?_⟩
    rw [Decimal.value_ofNat hd, sum_counts_of_whole h, selected]
  cases := by
    intro excluded
    have hd := Decimal.ofNat_of_lt (h.cases.filter fun e => !excluded.contains e.sku).tally_lt
    refine ⟨_, by rw [caseSummary_of_whole h, counted, hd, Amount.orOverflow_some]; rfl, ?_, ?_⟩
    · have hsplit := tally_filter_add_filter_not (·.cases) (fun e => excluded.contains e.sku) l.entries
      rw [Decimal.value_ofNat hd, ← hsplit, selected, add_comm]
      exact_mod_cast rfl
    · simp [isEmpty, List.filter_eq_nil_iff]

/-- Whole amounts give the same totals in any order. -/
theorem totals_perm (h : l.Whole) (hp : l'.entries.Perm l.entries) :
    l'.quantities = l.quantities ∧
      ∀ set, l'.quantityOf set = l.quantityOf set ∧ l'.caseSummary set = l.caseSummary set := by
  have h' : l'.Whole := ⟨h.quantity.perm hp, h.cases.perm hp⟩
  refine ⟨Table.ext_get? fun sku => ?_, fun set => ⟨?_, ?_⟩⟩
  · have hlines : (l'.linesOf sku).Perm (l.linesOf sku) := hp.filter _
    rw [get?_quantities_of_whole h', get?_quantities_of_whole h, tally_perm _ hlines]
    exact if_congr (by simp only [hp.mem_iff]) rfl rfl
  · have hselected : (l'.selected set).Perm (l.selected set) := hp.filter _
    rw [quantityOf_of_whole h', quantityOf_of_whole h, tally_perm _ hselected]
  · have hcounted : (l'.counted set).Perm (l.counted set) := hp.filter _
    rw [caseSummary_of_whole h', caseSummary_of_whole h, tally_perm _ hcounted, isEmpty, isEmpty, hp.isEmpty_eq,
      hcounted.isEmpty_eq]

namespace Small

def fractions : Ledger :=
  ofJson (.object [("A", .string "0.1"), ("a", .string "0.2"), ("-a", .string "0.3")])

end Small

/-- Fractions come to another number in another order. -/
theorem fractions_not_perm :
    ∃ l l' : Ledger, l'.entries.Perm l.entries ∧ l'.quantities ≠ l.quantities :=
  ⟨Small.fractions, ⟨Small.fractions.entries.reverse⟩, List.reverse_perm _, by decide +kernel⟩

/-- Each line of a payload is kept under the canonical form of its SKU, with amounts above zero. If these are whole and
    in bounds, the totals are the sums of the lines, agree, and do not depend on the order of the lines. -/
theorem merging_lossless (v : Json.Value) :
    (∀ e ∈ (ofJson v).entries, e.Proper Quantity.Positive) ∧
      ((ofJson v).Whole → (ofJson v).Agree ∧
        ∀ l : Ledger, l.entries.Perm (ofJson v).entries → l.quantities = (ofJson v).quantities ∧
          ∀ set, l.quantityOf set = (ofJson v).quantityOf set ∧ l.caseSummary set = (ofJson v).caseSummary set) := by
  constructor
  · exact positive_ofJson v
  · intro h
    refine ⟨agree_of_whole h, ?_⟩
    intro l hp
    exact totals_perm h hp

namespace Small

def mixed : Json.Value := .array
  [.object [("sku", .string "a-1"), ("quantity", .ofNat 3), ("cases", .ofNat 1)],
    .object [("sku", .string "A 1"), ("quantity", .ofNat 2)],
    .object [("sku", .string "b"), ("quantity", .string "4")],
    .object [("sku", .string "b"), ("quantity", .number (.whole (-4)))]]

end Small

/-- Five of the one SKU and four of the other, in either order of the three lines. -/
theorem merging_lossless_mixed :
    (ofJson Small.mixed).Whole ∧
      (ofJson Small.mixed).quantities.get? "A1" = some (.whole 5) ∧ (ofJson Small.mixed).Agree ∧
        (Ledger.mk (ofJson Small.mixed).entries.reverse).quantities = (ofJson Small.mixed).quantities := by
  have hwhole : (ofJson Small.mixed).Whole :=
    ⟨⟨by decide +kernel, by decide +kernel⟩, ⟨by decide +kernel, by decide +kernel⟩⟩
  obtain ⟨hagree, hperm⟩ := (merging_lossless Small.mixed).2 hwhole
  exact ⟨hwhole, by decide +kernel, hagree, (hperm _ (List.reverse_perm _)).1⟩

end Ledger

end Tariff.Sku
