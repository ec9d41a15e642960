/-
  Tariff.Proofs.Sku.Spelling — the spelling of a SKU does not count.

  One text is a respelling of another if blanks and hyphens that are put in or taken out,
  and changes between upper and lower case of A to Z, lead from the other to it. A SKU has
  the canonical form of its respellings, so neither a set of SKUs nor a total of a ledger
  tells them apart. `Ledger.mentions` does: it looks into the text itself (`mentions_of_spelling`).
  - `respelled_iff`: respelled texts agree in what is left without fillers and case.
  - `canonical_of_respelled`
  - `setOf_of_sameSkus`: repetitions and the order of a list do not count either.
  - `quantities_congr` / `quantityOf_congr` / `caseSummary_congr`: totals look at canonical forms.
  - `unspelled_of_respelled`: the lines of a payload.
-/
import Mathlib.Logic.Relation
import Tariff.Proofs.Table
import Tariff.Charge

namespace Tariff.Sku

/-! ## Texts -/

inductive Edit : List Char → List Char → Prop
  | insert (front : List Char) {c : Char} (h : isFiller c = true) (back : List Char) :
      Edit (front ++ back) (front ++ c :: back)
  | delete (front : List Char) {c : Char} (h : isFiller c = true) (back : List Char) :
      Edit (front ++ c :: back) (front ++ back)
  /-- Only the letters A to Z have a lower case here. -/
  | recase (front : List Char) {c d : Char} (h : c.toLower = d.toLower) (back : List Char) :
      Edit (front ++ c :: back) (front ++ d :: back)

def Respelled (s s' : String) : Prop := Relation.ReflTransGen Edit s.toList s'.toList

def bare (cs : List Char) : List Char := (cs.filter (!isFiller ·)).map Char.toLower

theorem toLower_of_large {c : Char} (h : 128 ≤ c.toNat) : c.toLower = c := by
  refine dif_neg fun hupper => ?_
  have hle : c.val.toNat ≤ 90 := hupper.2
  have hval : c.toNat = c.val.toNat := rfl
  omega

/-- What holds of each ASCII character, and of every character without another case, holds of all. -/
theorem forall_char {P : Char → Prop} (hascii : ∀ n < 128, P (Char.ofNat n)) (hother : ∀ c : Char, c.toLower = c → P c)
    (c : Char) : P c := by
  by_cases h : c.toNat < 128
  · rw [← Char.ofNat_toNat c]
    exact hascii _ h
  · exact hother c (toLower_of_large (Nat.not_lt.mp h))

theorem isFiller_toLower (c : Char) : isFiller c.toLower = isFiller c := by
  refine forall_char (P := fun c => isFiller c.toLower = isFiller c) (by decide) ?_ c
  intro c h
  rw [h]

theorem upper_toLower (c : Char) : Text.upper c.toLower = Text.upper c := by
  refine forall_char (P := fun c => Text.upper c.toLower = Text.upper c) (by decide) ?_ c
  intro c h
  rw [h]

theorem toLower_toLower (c : Char) : c.toLower.toLower = c.toLower := by
  refine forall_char (P := fun c => c.toLower.toLower = c.toLower) (by decide) ?_ c
  intro c h
  rw [h, h]

theorem bare_append (cs ds : List Char) : bare (cs ++ ds) = bare cs ++ bare ds := by
  simp [bare]

theorem bare_cons (c : Char) (cs : List Char) :
    bare (c :: cs) = if isFiller c then bare cs else c.toLower :: bare cs := by
  unfold bare
  cases h : isFiller c <;> simp [h]

theorem bare_of_edit {cs ds : List Char} (h : Edit cs ds) : bare cs = bare ds := by
  cases h with
  | insert front h back | delete front h back => rw [bare_append, bare_append, bare_cons, if_pos h]
  | recase front h back =>
    rename_i c d
    have hfiller : isFiller c = isFiller d := by rw [← isFiller_toLower, h, isFiller_toLower]
    rw [bare_append, bare_append, bare_cons, bare_cons, hfiller, h]

theorem Edit.symm {cs ds : List Char} (h : Edit cs ds) : Edit ds cs := by
  cases h with
  | insert front h back => exact .delete front h back
  | delete front h back => exact .insert front h back
  | recase front h back => exact .recase front h.symm back

instance : Std.Symm Edit := ⟨fun _ _ => Edit.symm⟩

theorem Edit.cons (c : Char) {cs ds : List Char} (h : Edit cs ds) : Edit (c :: cs) (c :: ds) := by
  cases h with
  | insert front h back => exact .insert (c :: front) h back
  | delete front h back => exact .delete (c :: front) h back
  | recase front h back => exact .recase (c :: front) h back

/-- Character by character, fillers are taken out and letters become lower case. -/
theorem edits_bare (cs : List Char) : Relation.ReflTransGen Edit cs (bare cs) := by
  induction cs with
  | nil => exact .refl
  | cons c cs ih =>
    rw [bare_cons]
    split_ifs with h
    · exact .head (.delete [] h cs) ih
    · have hcase : Edit (c :: cs) (c.toLower :: cs) := .recase [] (toLower_toLower c).symm cs
      exact .head hcase (ih.lift (c.toLower :: ·) fun _ _ => Edit.cons _)

theorem bare_of_edits {cs ds : List Char} (h : Relation.ReflTransGen Edit cs ds) : bare cs = bare ds := by
  induction h with
  | refl => rfl
  | tail _ hedit ih => rw [ih, bare_of_edit hedit]

/-- Texts are respellings of each other if they agree without fillers and case. -/
theorem respelled_iff {s s' : String} : Respelled s s' ↔ bare s.toList = bare s'.toList := by
  constructor
  · exact bare_of_edits
  · intro h
    have hback : Relation.ReflTransGen Edit (bare s'.toList) s'.toList := Std.Symm.symm _ _ (edits_bare s'.toList)
    rw [← h] at hback
    exact (edits_bare s.toList).trans hback

instance (s s' : String) : Decidable (Respelled s s') := decidable_of_iff _ respelled_iff.symm

theorem Respelled.symm {s s' : String} (h : Respelled s s') : Respelled s' s :=
  respelled_iff.mpr (respelled_iff.mp h).symm

theorem canonical_eq (s : String) : canonical s = String.ofList ((bare s.toList).flatMap Text.upper) := by
  unfold canonical bare
  rw [List.flatMap_map]
  simp only [upper_toLower]

theorem canonical_of_respelled {s s' : String} (h : Respelled s s') : canonical s = canonical s' := by
  rw [canonical_eq, canonical_eq, respelled_iff.mp h]

/-! ## Lists of SKUs -/

/-- The lists name the same SKUs, however spelled, in any order and any number of times. -/
def SameSkus (raws raws' : List String) : Prop :=
  (∀ s ∈ raws, ∃ s' ∈ raws', Respelled s s') ∧ ∀ s' ∈ raws', ∃ s ∈ raws, Respelled s s'

instance (raws raws' : List String) : Decidable (SameSkus raws raws') :=
  inferInstanceAs (Decidable ((∀ s ∈ raws, ∃ s' ∈ raws', Respelled s s') ∧ ∀ s' ∈ raws', ∃ s ∈ raws, Respelled s s'))

theorem mem_names_setOf {raws : List String} {sku : String} :
    sku ∈ (setOf raws).names ↔ sku ≠ "" ∧ ∃ s ∈ raws, canonical s = sku := by
  rw [setOf, Table.mem_names_ofList, List.map_map, show (Prod.fst ∘ fun sku => (sku, ())) = id from rfl, List.map_id,
    List.mem_filter, List.mem_map, decide_eq_true_eq, and_comm]

theorem setOf_of_sameSkus {raws raws' : List String} (h : SameSkus raws raws') : setOf raws = setOf raws' := by
  have hmono : ∀ {as bs : List String}, (∀ s ∈ as, ∃ s' ∈ bs, Respelled s s') → ∀ sku ∈ (setOf as).names,
      sku ∈ (setOf bs).names := by
    intro as bs has sku hsku
    obtain ⟨hne, s, hs, rfl⟩ := mem_names_setOf.mp hsku
    obtain ⟨s', hs', hspelled⟩ := has s hs
    exact mem_names_setOf.mpr ⟨hne, s', hs', (canonical_of_respelled hspelled).symm⟩
  refine Table.ext_names fun sku => ⟨hmono h.1 sku, hmono ?_ sku⟩
  intro s' hs'
  obtain ⟨s, hs, hspelled⟩ := h.2 s' hs'
  exact ⟨s, hs, hspelled.symm⟩

/-! ## Totals -/

def Entry.unspelled (e : Entry) : Entry := { e with raw := e.sku }

namespace Ledger

variable {l l' : Ledger}

def unspelled (l : Ledger) : Ledger := ⟨l.entries.map Entry.unspelled⟩

theorem quantities_unspelled (l : Ledger) : l.unspelled.quantities = l.quantities :=
  List.foldl_map

theorem quantityOf_unspelled (l : Ledger) (allowed : Table Unit) :
    l.unspelled.quantityOf allowed = l.quantityOf allowed := by
  rw [quantityOf, unspelled, List.filter_map, List.filterMap_map]
  rfl

theorem caseSummary_unspelled (l : Ledger) (excluded : Table Unit) :
    l.unspelled.caseSummary excluded = l.caseSummary excluded := by
  have hcounted : l.unspelled.counted excluded = (l.counted excluded).map Entry.unspelled := by
    rw [counted, unspelled, List.filter_map]
    rfl
  rw [caseSummary, hcounted, List.map_map, isEmpty, unspelled, List.isEmpty_map, List.isEmpty_map]
  rfl

theorem quantities_congr (h : l.unspelled = l'.unspelled) : l.quantities = l'.quantities := by
  rw [← quantities_unspelled, h, quantities_unspelled]

theorem quantityOf_congr (h : l.unspelled = l'.unspelled) (allowed : Table Unit) :
    l.quantityOf allowed = l'.quantityOf allowed := by
  rw [← quantityOf_unspelled, h, quantityOf_unspelled]

theorem caseSummary_congr (h : l.unspelled = l'.unspelled) (excluded : Table Unit) :
    l.caseSummary excluded = l'.caseSummary excluded := by
  rw [← caseSummary_unspelled, h, caseSummary_unspelled]

namespace Small

def spelled (raw : String) : Ledger := ⟨[⟨raw, "A1", .whole 1, .whole 1⟩]⟩

end Small

/-- A hyphen in the spelling of a SKU is mentioned. -/
theorem mentions_of_spelling :
    ∃ l l' : Ledger, l.unspelled = l'.unspelled ∧ l.mentions "-" = true ∧ l'.mentions "-" = false :=
  ⟨Small.spelled "a-1", Small.spelled "a1", by decide +kernel, by decide +kernel, by decide +kernel⟩

/-! ## Payloads -/

def itemSku (v : Json.Value) : Option String := v.get? "sku" >>= skuText

/-- List items that are the same, or that differ in the spelling of the SKU only. -/
inductive ItemRespelled : Json.Value → Json.Value → Prop
  | same (v : Json.Value) : ItemRespelled v v
  | respelled {v v' : Json.Value} {s s' : String} (hs : itemSku v = some s) (hs' : itemSku v' = some s')
      (h : Respelled s s') (others : ∀ name, name ≠ "sku" → v.get? name = v'.get? name) : ItemRespelled v v'

/-- The payload is a list of these items, or JSON text of it, which may be quoted once more. -/
inductive Lists : Json.Value → List Json.Value → Prop
  | array (items : List Json.Value) : Lists (.array items) items
  | text {s : String} {items : List Json.Value} (h : Json.read? (Text.trim s) = some (.array items)) :
      Lists (.string s) items
  | quoted {s inner : String} {items : List Json.Value} (h : Json.read? (Text.trim s) = some (.string inner))
      (hinner : Json.read? inner = some (.array items)) : Lists (.string s) items

/-- Payloads that are the same, or lists that differ item by item in the spelling of the SKUs only. -/
inductive PayloadRespelled : Option Json.Value → Option Json.Value → Prop
  | same (v : Option Json.Value) : PayloadRespelled v v
  | lists {v v' : Json.Value} {items items' : List Json.Value} (hv : Lists v items) (hv' : Lists v' items')
      (h : List.Forall₂ ItemRespelled items items') : PayloadRespelled (some v) (some v')

theorem ofJson_of_lists {v : Json.Value} {items : List Json.Value} (h : Lists v items) :
    ofJson v = ⟨items.filterMap entryOfItem⟩ := by
  cases h with
  | array => rfl
  | text h =>
    rw [ofJson, ofText, h]
    rfl
  | quoted h hinner =>
    rw [ofJson, ofText, h]
    simp only [hinner]
    rfl

theorem entryOfItem_eq (v : Json.Value) : entryOfItem v =
    (itemSku v).bind fun raw => ((v.get? "quantity").bind Quantity.ofJson).bind fun quantity =>
      Entry.of? raw quantity (((v.get? "cases").bind Quantity.ofJson).getD quantity) := by
  cases v <;> rfl

theorem unspelled_of? {s s' : String} (h : Respelled s s') (quantity cases : Quantity) :
    (Entry.of? s quantity cases).map Entry.unspelled = (Entry.of? s' quantity cases).map Entry.unspelled := by
  unfold Entry.of?
  rw [canonical_of_respelled h]
  split_ifs <;> rfl

theorem unspelled_of_itemRespelled {v v' : Json.Value} (h : ItemRespelled v v') :
    (entryOfItem v).map Entry.unspelled = (entryOfItem v').map Entry.unspelled := by
  cases h with
  | same => rfl
  | respelled hs hs' h others =>
    rw [entryOfItem_eq, entryOfItem_eq, hs, hs', others "quantity" (by decide), others "cases" (by decide),
      Option.bind_some, Option.bind_some]
    cases (v'.get? "quantity").bind Quantity.ofJson with
    | none => rw [Option.bind_none, Option.bind_none]
    | some quantity =>
      rw [Option.bind_some, Option.bind_some]
      exact unspelled_of? h _ _

theorem unspelled_of_items {items items' : List Json.Value} (h : List.Forall₂ ItemRespelled items items') :
    (items.filterMap entryOfItem).map Entry.unspelled = (items'.filterMap entryOfItem).map Entry.unspelled := by
  rw [List.map_filterMap, List.map_filterMap]
  induction h with
  | nil => rfl
  | cons hitem _ ih => rw [List.filterMap_cons, List.filterMap_cons, unspelled_of_itemRespelled hitem, ih]

theorem unspelled_of_respelled {payload payload' : Option Json.Value} (h : PayloadRespelled payload payload') :
    ((payload.map ofJson).getD .empty).unspelled = ((payload'.map ofJson).getD .empty).unspelled := by
  cases h with
  | same => rfl
  | lists hv hv' h =>
    rw [Option.map_some, Option.map_some, ofJson_of_lists hv, ofJson_of_lists hv']
    exact congrArg Ledger.mk (unspelled_of_items h)

end Ledger

end Tariff.Sku
