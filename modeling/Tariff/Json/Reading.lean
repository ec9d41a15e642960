/-
  Tariff.Json.Reading — reading records from JSON data.

  A record is read from an object by the names of its fields, or from an array by their
  order. The first fault in the order of the object's members is the answer; only when
  all members are sound is a missing field noticed, in the order of the fields.
-/
import Tariff.Json
import Tariff.Decimal
import Tariff.Text

namespace Tariff.Json

inductive ReadError where
  | wrongType (found : Value) (expected : String)
  | wrongValue (found : Value) (expected : String)
  | wrongLength (length : Nat) (expected : String)
  | missingField (name : String)
  | unknownField (name : String) (known : List String)
  | unknownVariant (name : String) (known : List String)
  /-- A text that its own reader refuses, in the words of that reader. -/
  | refused (reason : String)
  deriving Repr

def Value.description : Value → String
  | .null => "null"
  | .bool b => "boolean `" ++ toString b ++ "`"
  | .number (.whole n) => "integer `" ++ toString n ++ "`"
  | .number (.binary x) => "floating point `" ++ x.text ++ "`"
  | .string s => "string " ++ Text.quoted s
  | .array _ => "sequence"
  | .object _ => "map"

namespace ReadError

def ticked (name : String) : String := "`" ++ name ++ "`"

def choice : List String → String
  | [] => "nothing"
  | [a] => ticked a
  | [a, b] => ticked a ++ " or " ++ ticked b
  | names => "one of " ++ String.intercalate ", " (names.map ticked)

def message : ReadError → String
  | .wrongType found expected => "invalid type: " ++ found.description ++ ", expected " ++ expected
  | .wrongValue found expected => "invalid value: " ++ found.description ++ ", expected " ++ expected
  | .wrongLength length expected => "invalid length " ++ toString length ++ ", expected " ++ expected
  | .missingField name => "missing field " ++ ticked name
  | .unknownField name known => "unknown field " ++ ticked name ++ ", expected " ++ choice known
  | .unknownVariant name known => "unknown variant " ++ ticked name ++ ", expected " ++ choice known
  | .refused reason => reason

end ReadError

abbrev Reading (α : Type) := Except ReadError α

/-! ## Single values -/

def readText : Value → Reading String
  | .string s => .ok s
  | v => .error (.wrongType v "a string")

def readFlag : Value → Reading Bool
  | .bool b => .ok b
  | v => .error (.wrongType v "a boolean")

def readCount : Value → Reading Nat
  | .number (.whole n) =>
    if 0 ≤ n then .ok n.toNat else .error (.wrongValue (.number (.whole n)) "usize")
  | v => .error (.wrongType v "usize")

def readAny (v : Value) : Reading Value := .ok v

def readList {α : Type} (read : Value → Reading α) : Value → Reading (List α)
  | .array items => items.mapM read
  | v => .error (.wrongType v "a sequence")

/-- Null is nothing; any other value is read. -/
def readOption {α : Type} (read : Value → Reading α) : Value → Reading (Option α)
  | .null => .ok none
  | v => (read v).map some

/-- A name of a list of alternatives, alone or as the only member of an object. -/
def readVariant {α : Type} (known : List (String × α)) : Value → Reading α
  | .string s => find s
  | .object [(name, v)] => do
    let a ← find name
    match v with
    | .null => return a
    | v => throw (.wrongType v "unit")
  | .object members => .error (.wrongValue (.object members) "map with a single key")
  | v => .error (.wrongType v "string or map")
where
  find (name : String) : Reading α :=
    match known.lookup name with
    | some a => .ok a
    | none => .error (.unknownVariant name (known.map (·.1)))

def decimalType : String := "a Decimal type representing a fixed-point number"

/-- A decimal, from a whole number, from the digits of a binary64 number or from a numeral
    in a text. The text is not trimmed. -/
def readDecimal (v : Value) : Reading Decimal :=
  match v with
  | .number n =>
    let read := match n with
      | .whole n => Decimal.ofInt n
      | .binary x => Decimal.readPlain x.plainText.toList
    read.elim (.error (.wrongValue v decimalType)) .ok
  | .string s => (Decimal.ofText s).elim (.error (.wrongValue v decimalType)) .ok
  | v => .error (.wrongType v decimalType)

/-! ## Records -/

/-- The members that a record is read from. An array supplies them by position; `length` is
    what it is refused for when its items are sound but too few or too many. -/
structure Source where
  members : List (String × Value)
  length : Option ReadError

/-- The members of `v` for the fields `names` of a record. An array must have at least
    `required` items. -/
def Source.of (type : String) (names : List String) (required : Nat) : Value → Reading Source
  | .object members => .ok ⟨members, none⟩
  | .array items =>
    let length :=
      if items.length < required then
        some (.wrongLength items.length ("struct " ++ type ++ " with " ++ toString names.length ++ " elements"))
      else if names.length < items.length then
        some (.wrongLength items.length "fewer elements in array")
      else none
    .ok ⟨names.zip items, length⟩
  | v => .error (.wrongType v ("struct " ++ type))

/-- A field of a record and what reading it gave, if it is there. -/
structure Slot (α : Type) where
  name : String
  content : Option (Reading α)

namespace Slot

variable {α : Type}

def fault (s : Slot α) : String × Option ReadError :=
  (s.name, match s.content with
    | some (.error e) => some e
    | _ => none)

def required (s : Slot α) : Reading α := s.content.getD (.error (.missingField s.name))

def getD (s : Slot α) (a : α) : Reading α := s.content.getD (.ok a)

end Slot

namespace Source

def slot {α : Type} (src : Source) (name : String) (read : Value → Reading α) : Slot α :=
  ⟨name, (src.members.lookup name).map read⟩

/-- The first fault in the order of the members. A member that is no field is a fault when
    `closed`. -/
def check (src : Source) (faults : List (String × Option ReadError)) (closed : Bool) : Reading Unit :=
  let fault := src.members.findSome? fun (name, _) =>
    match faults.lookup name with
    | some fault => fault
    | none => if closed then some (.unknownField name (faults.map (·.1))) else none
  match fault.or src.length with
  | some e => .error e
  | none => .ok ()

end Source

end Tariff.Json
