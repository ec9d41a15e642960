/-
  Tariff.Proofs.Sku.Lines — the lines of a ledger, however its payload is shaped.

  A line is kept under a SKU that is not empty, and only with amounts above zero. Of data
  that was read, these have the size of a number in JSON data.
  - `proper_ofJson`: what holds of every quantity that data can give holds in every line.
  - `positive_ofJson` / `given_ofJson`: amounts are above zero, and of 64 bits.
-/
import Tariff.Sku
import Tariff.Proofs.Json.Written

namespace Tariff.Sku

open Json

namespace Quantity

theorem ofJson_string (s : String) : ofJson (.string s) = ofText s := rfl

def Positive : Quantity → Prop
  | .whole n => 0 < n
  | .fractional x => 0 < x.value
  | .unbounded => False

theorem eq_of_ofWhole {n : Nat} {q : Quantity} (h : ofWhole n = some q) : 0 < n ∧ q = .whole n := by
  unfold ofWhole at h
  split_ifs at h with hpos
  cases h
  exact ⟨hpos, rfl⟩

theorem eq_of_ofBinary64 {x : Binary64} {q : Quantity} (h : ofBinary64 x = some q) :
    (x.negative = false ∧ 0 < x.significand) ∧ q = .fractional x := by
  unfold ofBinary64 at h
  split_ifs at h with hpos
  cases h
  simp only [Bool.and_eq_true, Bool.not_eq_true', decide_eq_true_eq] at hpos
  exact ⟨hpos, rfl⟩

/-- A text gives a number that is whole and below the bound, or else the nearest binary64 number. -/
theorem source_of_ofText {s : String} {q : Quantity} (h : ofText s = some q) :
    (∃ n < wholeBound, ofWhole n = some q) ∨ ∃ x : Binary64, x.significand < twoTo 53 ∧ ofBinary64 x = some q := by
  unfold ofText at h
  dsimp only at h
  split at h
  case h_1 n hread => exact .inl ⟨n, of_decide_eq_true (Option.filter_eq_some_iff.mp hread).2, h⟩
  case h_2 =>
    obtain ⟨x, hx, hq⟩ := Option.bind_eq_some_iff.mp h
    exact .inr ⟨x, Binary64.significand_lt_of_ofChars hx, hq⟩

theorem positive_of_ofWhole {n : Nat} {q : Quantity} (h : ofWhole n = some q) : q.Positive := by
  obtain ⟨hpos, rfl⟩ := eq_of_ofWhole h
  exact hpos

theorem positive_of_ofBinary64 {x : Binary64} {q : Quantity} (h : ofBinary64 x = some q) : q.Positive := by
  obtain ⟨hpos, rfl⟩ := eq_of_ofBinary64 h
  exact Binary64.value_pos_iff.mpr hpos

theorem positive_of_ofText {s : String} {q : Quantity} (h : ofText s = some q) : q.Positive := by
  rcases source_of_ofText h with ⟨n, -, hq⟩ | ⟨x, -, hq⟩
  · exact positive_of_ofWhole hq
  · exact positive_of_ofBinary64 hq

theorem positive_of_ofJson {v : Value} {q : Quantity} (h : ofJson v = some q) : q.Positive := by
  cases v with
  | number n =>
    cases n with
    | whole n => exact positive_of_ofWhole h
    | binary x => exact positive_of_ofBinary64 h
  | string s =>
    rw [ofJson_string] at h
    exact positive_of_ofText h
  | _ => cases h

/-- What the quantity of a line is: above zero, and a number of 64 bits. -/
def Given : Quantity → Prop
  | .whole n => 0 < n ∧ n < wholeBound
  | .fractional x => x.negative = false ∧ 0 < x.significand ∧ x.significand < twoTo 53
  | .unbounded => False

instance : DecidablePred Given
  | .whole n => inferInstanceAs (Decidable (0 < n ∧ n < wholeBound))
  | .fractional x =>
    inferInstanceAs (Decidable (x.negative = false ∧ 0 < x.significand ∧ x.significand < twoTo 53))
  | .unbounded => inferInstanceAs (Decidable False)

theorem given_of_ofWhole {n : Nat} (hn : n < wholeBound) {q : Quantity} (h : ofWhole n = some q) : q.Given := by
  obtain ⟨hpos, rfl⟩ := eq_of_ofWhole h
  exact ⟨hpos, hn⟩

theorem given_of_ofBinary64 {x : Binary64} (hx : x.significand < twoTo 53) {q : Quantity}
    (h : ofBinary64 x = some q) : q.Given := by
  obtain ⟨⟨hsign, hpos⟩, rfl⟩ := eq_of_ofBinary64 h
  exact ⟨hsign, hpos, hx⟩

theorem given_of_ofText {s : String} {q : Quantity} (h : ofText s = some q) : q.Given := by
  rcases source_of_ofText h with ⟨n, hn, hq⟩ | ⟨x, hx, hq⟩
  · exact given_of_ofWhole hn hq
  · exact given_of_ofBinary64 hx hq

theorem given_of_ofJson {v : Value} (hv : v.Sized) {q : Quantity} (h : ofJson v = some q) : q.Given := by
  cases hv with
  | number hn =>
    rename_i n
    cases n with
    | whole n =>
      refine given_of_ofWhole ?_ h
      have hle : n ≤ twoTo 64 - 1 := hn.2
      have hbound : wholeBound = twoTo 64 := rfl
      have : 0 < twoTo 64 := by decide
      omega
    | binary x => exact given_of_ofBinary64 hn h
  | string s =>
    rw [ofJson_string] at h
    exact given_of_ofText h
  | _ => cases h

end Quantity

/-- A line under the canonical form of its spelling, which is not empty, with amounts that `P` holds of. -/
structure Entry.Proper (P : Quantity → Prop) (e : Entry) : Prop where
  sku : e.sku = canonical e.raw
  sku_ne : e.sku ≠ ""
  quantity : P e.quantity
  cases : P e.cases

theorem Entry.proper_of_of? {P : Quantity → Prop} {raw : String} {quantity cases : Quantity} {e : Entry}
    (h : Entry.of? raw quantity cases = some e) (hq : P quantity) (hc : P cases) : e.Proper P := by
  unfold Entry.of? at h
  split_ifs at h with hne
  cases h
  exact ⟨rfl, hne, hq, hc⟩

namespace Ledger

/-! ## Any property of amounts -/

section

variable {S : Value → Prop} {P : Quantity → Prop}

/-- Cases that are not given are the quantity. -/
theorem of_getD {cases : Option Quantity} (h : ∀ q, cases = some q → P q) {quantity : Quantity} (hq : P quantity) :
    P (cases.getD quantity) := by
  cases cases with
  | none => exact hq
  | some q => exact h q rfl

variable (hS : Hereditary S) (hP : ∀ v q, S v → Quantity.ofJson v = some q → P q)

include hS hP

theorem of_lookup {members : List (String × Value)} (h : S (.object members)) {name : String} {q : Quantity}
    (hq : members.lookup name >>= Quantity.ofJson = some q) : P q := by
  obtain ⟨v, hv, hread⟩ := Option.bind_eq_some_iff.mp hq
  exact hP v q (hS.of_lookup h hv) hread

theorem proper_of_entryOfItem {v : Value} (hv : S v) {e : Entry} (h : entryOfItem v = some e) : e.Proper P := by
  cases v with
  | object members =>
    obtain ⟨raw, -, h⟩ := Option.bind_eq_some_iff.mp h
    obtain ⟨quantity, hquantity, h⟩ := Option.bind_eq_some_iff.mp h
    have hq := of_lookup hS hP hv hquantity
    exact Entry.proper_of_of? h hq (of_getD (fun q hc => of_lookup hS hP hv hc) hq)
  | _ => cases h

theorem of_amountsOf {v : Value} (hv : S v) {amounts : Quantity × Quantity} (h : amountsOf v = some amounts) :
    P amounts.1 ∧ P amounts.2 := by
  -- outside an object the quantity is the cases
  have single : ∀ {r : Option Quantity}, (∀ q, r = some q → P q) → r.map (fun q => (q, q)) = some amounts →
      P amounts.1 ∧ P amounts.2 := by
    intro r hr hmap
    obtain ⟨q, hq, rfl⟩ := Option.map_eq_some_iff.mp hmap
    exact ⟨hr q hq, hr q hq⟩
  cases v with
  | object members =>
    unfold amountsOf at h
    dsimp only at h
    split at h
    case h_1 vq hlookup =>
      obtain ⟨quantity, hquantity, rfl⟩ := Option.map_eq_some_iff.mp h
      have hq := hP vq quantity (hS.of_lookup hv hlookup) hquantity
      exact ⟨hq, of_getD (fun q hc => of_lookup hS hP hv hc) hq⟩
    case h_2 => exact single (fun q hq => of_lookup hS hP hv hq) h
  | _ => exact single (fun q hq => hP _ q hv hq) h

theorem proper_of_entryOfMember {member : String × Value} (hv : S member.2) {e : Entry}
    (h : entryOfMember member = some e) : e.Proper P := by
  obtain ⟨amounts, hamounts, he⟩ := Option.bind_eq_some_iff.mp h
  obtain ⟨hq, hc⟩ := of_amountsOf hS hP hv hamounts
  exact Entry.proper_of_of? he hq hc

theorem proper_ofContainer {v : Value} (hv : S v) : ∀ e ∈ (ofContainer v).entries, e.Proper P := by
  intro e he
  cases v with
  | array items =>
    obtain ⟨item, hitem, he⟩ := List.mem_filterMap.mp he
    exact proper_of_entryOfItem hS hP (hS.item hv hitem) he
  | object members =>
    obtain ⟨member, hmember, he⟩ := List.mem_filterMap.mp he
    exact proper_of_entryOfMember hS hP (hS.member hv hmember) he
  | _ => cases he

theorem proper_ofText (s : String) : ∀ e ∈ (ofText s).entries, e.Proper P := by
  intro e he
  unfold ofText at he
  split at he
  case h_1 inner _ =>
    cases hread : read? inner with
    | none =>
      rw [hread] at he
      cases he
    | some v =>
      rw [hread] at he
      exact proper_ofContainer hS hP (hS.read hread) e he
  case h_2 v hread => exact proper_ofContainer hS hP (hS.read hread) e he
  case h_3 => cases he

/-- What holds of every quantity that data can give holds of the amounts in every line. -/
theorem proper_ofJson {v : Value} (hv : S v) : ∀ e ∈ (ofJson v).entries, e.Proper P := by
  cases v with
  | string s => exact proper_ofText hS hP s
  | array items => exact proper_ofContainer hS hP hv
  | object members => exact proper_ofContainer hS hP hv
  | _ =>
    intro e he
    cases he

end

/-! ## Amounts of a ledger -/

theorem positive_ofJson (v : Value) : ∀ e ∈ (ofJson v).entries, e.Proper Quantity.Positive :=
  proper_ofJson hereditary_true (fun _ _ _ => Quantity.positive_of_ofJson) trivial

def Given (l : Ledger) : Prop := ∀ e ∈ l.entries, e.quantity.Given ∧ e.cases.Given

instance : DecidablePred Given := fun l =>
  inferInstanceAs (Decidable (∀ e ∈ l.entries, e.quantity.Given ∧ e.cases.Given))

theorem given_ofJson {v : Value} (hv : v.Sized) : (ofJson v).Given := by
  intro e he
  have hproper := proper_ofJson hereditary_sized (fun _ _ hv hq => Quantity.given_of_ofJson hv hq) hv e he
  exact ⟨hproper.quantity, hproper.cases⟩

theorem given_ofText (s : String) : (ofText s).Given := given_ofJson (v := .string s) (.string s)

end Ledger

end Tariff.Sku
