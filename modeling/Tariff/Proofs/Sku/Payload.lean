/-
  Tariff.Proofs.Sku.Payload — one ledger, however its payload is shaped.

  A payload may be JSON text in a string, once or twice over, and an object with SKUs as
  names is short for a list of lines.
  - `ofJson_asText` / `ofJson_asText_asText`: text of a payload, and text of that text.
  - `ofJson_layered`: more layers give nothing.
  - `entryOfItem_itemOf`: the line that a member is short for.
  - `ofJson_shapes`: all of it.
-/
import Tariff.Proofs.Json.Written
import Tariff.Sku

namespace Tariff

/-! ## Text without blanks at its ends -/

namespace Text

theorem trimStart_cons {c : Char} {cs : List Char} (h : isBlank c = false) : trimStart (c :: cs) = c :: cs := by
  simp [trimStart, h]

theorem trimEnd_concat {c : Char} {cs : List Char} (h : isBlank c = false) : trimEnd (cs ++ [c]) = cs ++ [c] := by
  simp [trimEnd, h]

theorem trim_between {s : String} {a b : Char} {cs : List Char} (hs : s.toList = a :: cs ++ [b])
    (ha : isBlank a = false) (hb : isBlank b = false) : trim s = s := by
  unfold trim
  rw [hs, List.cons_append, trimStart_cons ha, ← List.cons_append, trimEnd_concat hb, ← hs, String.ofList_toList]

end Text

/-! ## Layers of text -/

namespace Json.Value

def asText (v : Value) : Value := .string v.compact

/-- The data as text, as text of that, and so on. -/
def layered : Nat → Value → Value
  | 0, v => v
  | n + 1, v => (layered n v).asText

def isContainer : Value → Bool
  | .array _ | .object _ => true
  | _ => false

/-- Texts, arrays and objects are written between marks. -/
theorem trim_compact {v : Value} (h : v.isContainer = true ∨ ∃ s, v = .string s) : Text.trim v.compact = v.compact := by
  have between : ∀ {a b : Char} {cs : List Char}, v.compactChars = a :: cs ++ [b] → Text.isBlank a = false →
      Text.isBlank b = false → Text.trim v.compact = v.compact := by
    intro a b cs hcs ha hb
    exact Text.trim_between (by rw [compact, String.toList_ofList, hcs]) ha hb
  rcases h with h | ⟨s, rfl⟩
  · cases v with
    | array items => exact between (compactChars.eq_6 items) (by decide) (by decide)
    | object members => exact between (compactChars.eq_7 members) (by decide) (by decide)
    | _ => cases h
  · exact between (by rw [compactChars, literal]) (by decide) (by decide)

end Json.Value

namespace Sku.Ledger

open Json

theorem ofJson_of_isContainer {v : Value} (h : v.isContainer = true) : ofJson v = ofContainer v := by
  cases v with
  | array items => rfl
  | object members => rfl
  | _ => cases h

/-- Text of a payload. -/
theorem ofJson_asText {v : Value} (hc : v.isContainer = true) (hr : read? v.compact = some v) :
    ofJson v.asText = ofJson v := by
  rw [ofJson_of_isContainer hc]
  unfold Value.asText
  rw [ofJson, ofText, Value.trim_compact (.inl hc), hr]
  cases v with
  | array items => rfl
  | object members => rfl
  | _ => cases hc

/-- Text in text is read once more, but not trimmed again. -/
theorem ofJson_string_asText (s : String) :
    ofJson (Value.string s).asText = ((read? s).map ofContainer).getD empty := by
  unfold Value.asText
  rw [ofJson, ofText, Value.trim_compact (.inr ⟨s, rfl⟩), read?_literal]

/-- Text of text of a payload. -/
theorem ofJson_asText_asText {v : Value} (hc : v.isContainer = true) (hr : read? v.compact = some v) :
    ofJson v.asText.asText = ofJson v := by
  have h := ofJson_string_asText v.compact
  rw [hr] at h
  rw [ofJson_of_isContainer hc]
  exact h

/-- Text of text of a text is no payload. -/
theorem ofJson_layered (n : Nat) (v : Value) : ofJson (v.layered (n + 3)) = empty := by
  have h := ofJson_string_asText (Value.string (v.layered n).compact).compact
  rw [read?_literal] at h
  exact h

/-! ## Lists and objects -/

/-- A list item. The cases are left out where none are given. -/
def line (sku : String) (quantity : Value) (cases : Option Value) : Value :=
  .object ((cases.map fun v => ("cases", v)).toList ++ [("quantity", quantity), ("sku", .string sku)])

/-- The list item that the member `sku` of an object is short for. -/
def itemOf (sku : String) (v : Value) : Value :=
  match v.get? "quantity", v.get? "cases" with
  | some quantity, cases => line sku quantity cases
  | none, some cases => line sku cases (some cases)
  | none, none => line sku v none

/-- What a list item comes to. Cases that are missing or not usable are the quantity. -/
theorem entryOfItem_line (sku : String) (quantity : Value) (cases : Option Value) :
    entryOfItem (line sku quantity cases) =
      (Quantity.ofJson quantity).bind fun q => Entry.of? sku q ((cases.bind Quantity.ofJson).getD q) := by
  cases cases <;> simp [line, entryOfItem, skuText, List.lookup_cons]

/-- A value that is no object is a quantity. -/
theorem amountsOf_of_get?_eq_none {v : Value} (hq : v.get? "quantity" = none) (hc : v.get? "cases" = none) :
    amountsOf v = (Quantity.ofJson v).map fun q => (q, q) := by
  cases v with
  | object members =>
    have hq : members.lookup "quantity" = none := hq
    have hc : members.lookup "cases" = none := hc
    simp [amountsOf, hq, hc, Quantity.ofJson]
  | _ => rfl

theorem entryOfItem_itemOf (sku : String) (v : Value) : entryOfItem (itemOf sku v) = entryOfMember (sku, v) := by
  unfold itemOf entryOfMember
  split
  · rename_i cases quantity hq
    cases v with
    | object members =>
      have hq : members.lookup "quantity" = some quantity := hq
      rw [entryOfItem_line]
      simp only [amountsOf, hq, Value.get?]
      cases Quantity.ofJson quantity <;> rfl
    | _ => cases hq
  · rename_i cases hq hc
    cases v with
    | object members =>
      have hq : members.lookup "quantity" = none := hq
      have hc : members.lookup "cases" = some cases := hc
      rw [entryOfItem_line]
      simp only [amountsOf, hq, hc, Option.bind_some]
      cases h : Quantity.ofJson cases <;> simp [h]
    | _ => cases hc
  · rename_i hq hc
    rw [entryOfItem_line, amountsOf_of_get?_eq_none hq hc]
    cases Quantity.ofJson v <;> rfl

theorem ofJson_object (members : List (String × Value)) :
    ofJson (.object members) = ofJson (.array (members.map fun m => itemOf m.1 m.2)) := by
  have hitem : ∀ m : String × Value, entryOfItem (itemOf m.1 m.2) = entryOfMember m := by
    intro m
    exact entryOfItem_itemOf m.1 m.2
  show Ledger.mk _ = Ledger.mk _
  have hitems : (entryOfItem ∘ fun m : String × Value => itemOf m.1 m.2) = entryOfMember := funext hitem
  rw [List.filterMap_map, hitems]

/-! ## The shapes of a payload -/

/-- A payload that is read back from its text has the same lines as text, once or twice over, and none as text
    three times or more; an object has the lines of the list that it is short for. -/
theorem ofJson_shapes (v : Value) (hc : v.isContainer = true) (hr : read? v.compact = some v) :
    ofJson v.asText = ofJson v ∧ ofJson v.asText.asText = ofJson v ∧
      (∀ n, ofJson (v.layered (n + 3)) = empty) ∧
      ∀ members, ofJson (.object members) = ofJson (.array (members.map fun m => itemOf m.1 m.2)) :=
  ⟨ofJson_asText hc hr, ofJson_asText_asText hc hr, fun n => ofJson_layered n v, ofJson_object⟩

namespace Small

def lines : Value :=
  .array [.object [("cases", .number (.whole 3)), ("quantity", .string " 12"), ("sku", .string "a\"-1\n")],
    .object [("sku", .string "b")]]

end Small

/-- A quote in a SKU is written behind one backslash, and behind three in text of text. -/
theorem ofJson_shapes_small :
    Small.lines.isContainer = true ∧ read? Small.lines.compact = some Small.lines ∧
      ofJson Small.lines.asText.asText = ofJson Small.lines ∧
      (ofJson Small.lines.asText.asText).entries = [⟨"a\"-1\n", "A\"1", .whole 12, .whole 3⟩] := by
  have hlexemes : lexemes Small.lines.compact.toList = some [.openArray, .openObject,
      .string "cases", .colon, .number ⟨none, ['3'], none, none⟩, .comma,
      .string "quantity", .colon, .string " 12", .comma, .string "sku", .colon, .string "a\"-1\n", .closeObject, .comma,
      .openObject, .string "sku", .colon, .string "b", .closeObject, .closeArray] := by
    rw [Value.compact, String.toList_ofList]
    decide +kernel
  have hread : read? Small.lines.compact = some Small.lines := by
    unfold read? Written.ofText
    rw [hlexemes]
    rfl
  have htwice := (ofJson_shapes Small.lines rfl hread).2.1
  exact ⟨rfl, hread, htwice, by rw [htwice]; decide +kernel⟩

end Sku.Ledger

end Tariff
