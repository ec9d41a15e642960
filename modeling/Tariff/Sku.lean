/-
  Tariff.Sku — stock keeping units, and the SKU lines of an order.

  Two spellings name one SKU if they differ in blanks, hyphens and case only. The
  canonical form has no blank and no hyphen and is in upper case.

  A quantity is whole, up to 64 bits, or a binary64 number. Whole quantities add up to a
  whole one as long as 64 bits hold it. A sum beyond binary64 is `unbounded`: it is kept,
  but has no number any more.

  A payload is a list of lines, an object with SKUs as names, or JSON text of one of
  them, which may be quoted once more. What cannot be read is left out: a line without
  usable SKU and quantity, and a whole payload that is none of these. `quantities` adds
  up the lines of each SKU.
-/
import Tariff.Text
import Tariff.Table
import Tariff.Decimal
import Tariff.Json
import Tariff.Json.Written

namespace Tariff.Sku

def isFiller (c : Char) : Bool := Text.isBlank c || c == '-'

def canonical (raw : String) : String :=
  String.ofList ((raw.toList.filter (!isFiller ·)).flatMap Text.upper)

/-- The SKUs that a list of spellings names. A spelling without any character that counts
    names none. -/
def setOf (raws : List String) : Table Unit :=
  Table.ofList (((raws.map canonical).filter (· ≠ "")).map fun sku => (sku, ()))

/-! ## Quantities -/

inductive Quantity where
  | whole (n : Nat)
  | fractional (x : Binary64)
  | unbounded
  deriving DecidableEq, Repr

namespace Quantity

def wholeBound : Nat := twoTo 64

def ofWhole (n : Nat) : Option Quantity := if 0 < n then some (.whole n) else none

def ofBinary64 (x : Binary64) : Option Quantity :=
  if !x.negative && 0 < x.significand then some (.fractional x) else none

/-- A quantity written in a text, blanks around it aside. -/
def ofText (s : String) : Option Quantity :=
  let cs := (Text.trim s).toList
  match readNatBelow wholeBound cs with
  | some n => ofWhole n
  | none => Binary64.ofChars cs >>= ofBinary64

/-- The quantity that a number or a text gives, if it is above zero. -/
def ofJson : Json.Value → Option Quantity
  | .number (.whole n) => ofWhole n.toNat
  | .number (.binary x) => ofBinary64 x
  | .string s => ofText s
  | _ => none

def toBinary64 : Quantity → Option Binary64
  | .whole n => Binary64.ofNat n
  | .fractional x => some x
  | .unbounded => none

def toDecimal : Quantity → Option Decimal
  | .whole n => Decimal.ofNat n
  | .fractional x => Decimal.ofBinary64 x
  | .unbounded => none

def addBinary64 (a b : Quantity) : Quantity :=
  match a.toBinary64, b.toBinary64 with
  | some x, some y => (x.add y).elim .unbounded .fractional
  | _, _ => .unbounded

def add (a b : Quantity) : Quantity :=
  match a, b with
  | .whole m, .whole n => if m + n < wholeBound then .whole (m + n) else addBinary64 a b
  | _, _ => addBinary64 a b

instance : Add Quantity := ⟨add⟩

def toJson : Quantity → Json.Value
  | .whole n => .ofNat n
  | .fractional x => .number (.binary x)
  | .unbounded => .null

end Quantity

/-! ## Ledgers -/

/-- One line. The cases are the quantity where none are given. -/
structure Entry where
  raw : String
  sku : String
  quantity : Quantity
  cases : Quantity
  deriving DecidableEq, Repr

/-- A line for a spelling, unless it names no SKU. -/
def Entry.of? (raw : String) (quantity cases : Quantity) : Option Entry :=
  if canonical raw = "" then none else some ⟨raw, canonical raw, quantity, cases⟩

structure Ledger where
  entries : List Entry
  deriving DecidableEq, Repr

namespace Ledger

def empty : Ledger := ⟨[]⟩

def skuText : Json.Value → Option String
  | .string s => some s
  | .number n => some n.text
  | _ => none

/-- The line of a list item: an object with a SKU and a usable quantity. -/
def entryOfItem : Json.Value → Option Entry
  | .object members => do
    let raw ← members.lookup "sku" >>= skuText
    let quantity ← members.lookup "quantity" >>= Quantity.ofJson
    let cases := members.lookup "cases" >>= Quantity.ofJson
    Entry.of? raw quantity (cases.getD quantity)
  | _ => none

/-- Quantity and cases of an object member. An object may give cases alone; a quantity that
    it gives and that is not usable leaves the member out. -/
def amountsOf : Json.Value → Option (Quantity × Quantity)
  | .object members =>
    let cases := members.lookup "cases" >>= Quantity.ofJson
    match members.lookup "quantity" with
    | some v => (Quantity.ofJson v).map fun q => (q, cases.getD q)
    | none => cases.map fun q => (q, q)
  | v => (Quantity.ofJson v).map fun q => (q, q)

def entryOfMember (member : String × Json.Value) : Option Entry :=
  amountsOf member.2 >>= fun (quantity, cases) => Entry.of? member.1 quantity cases

def ofContainer : Json.Value → Ledger
  | .array items => ⟨items.filterMap entryOfItem⟩
  | .object members => ⟨members.filterMap entryOfMember⟩
  | _ => empty

/-- The lines of JSON text, or of JSON text in a string of JSON text. -/
def ofText (s : String) : Ledger :=
  match Json.read? (Text.trim s) with
  | some (.string inner) => ((Json.read? inner).map ofContainer).getD empty
  | some v => ofContainer v
  | none => empty

def ofJson : Json.Value → Ledger
  | .string s => ofText s
  | v => ofContainer v

def isEmpty (l : Ledger) : Bool := l.entries.isEmpty

def addTo (totals : Table Quantity) (e : Entry) : Table Quantity :=
  totals.put e.sku (match totals.get? e.sku with
    | some q => q + e.quantity
    | none => e.quantity)

def quantities (l : Ledger) : Table Quantity := l.entries.foldl addTo Table.empty

/-- A value names a SKU of the ledger, or stands in a spelling as it is. -/
def mentions (l : Ledger) (value : String) : Bool :=
  value ≠ "" && l.entries.any fun e =>
    (canonical value ≠ "" && e.sku == canonical value) || Text.occursIn value.toList e.raw.toList

def serialized (l : Ledger) : String :=
  (Json.Value.object (l.quantities.entries.map fun (sku, q) => (sku, q.toJson))).compact

end Ledger

end Tariff.Sku
