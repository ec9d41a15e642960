/-
  Tariff.Json — JSON data, and how it is written.

  A number is a whole number of at most 64 bits or a binary64 number. The members of an
  object stand in a list; those of a value that was read stand in ascending order of
  their names, each name once. Whoever writes a value chooses the order of its members.

  `compact` writes no blanks. `pretty` writes every item and member on a line of its own,
  two spaces deeper than what holds it; an empty array or object stays on one line. Both
  keep the order of the members and leave characters outside ASCII as they are.
-/
import Tariff.Binary64
import Tariff.Table

namespace Tariff.Json

inductive Number where
  | whole (n : Int)
  | binary (x : Binary64)
  deriving DecidableEq, Repr

inductive Value where
  | null
  | bool (b : Bool)
  | number (n : Number)
  | string (s : String)
  | array (items : List Value)
  | object (members : List (String × Value))
  deriving Repr

instance : Inhabited Value := ⟨.null⟩

namespace Number

/-- The least and the greatest whole number that a JSON number keeps exactly. -/
def leastWhole : Int := -(twoTo 63 : Int)

def greatestWhole : Int := twoTo 64 - 1

def text : Number → String
  | .whole n => toString n
  | .binary x => x.text

def toBinary64 : Number → Option Binary64
  | .whole n => Binary64.ofInt n
  | .binary x => some x

end Number

namespace Value

def ofNat (n : Nat) : Value := .number (.whole n)

/-- A number that may be too large for binary64; one that is has no JSON form but null. -/
def ofBinary64? : Option Binary64 → Value
  | some x => .number (.binary x)
  | none => .null

def ofText? : Option String → Value
  | some s => .string s
  | none => .null

/-- The member `name` of an object. No other value has members. -/
def get? (v : Value) (name : String) : Option Value :=
  match v with
  | .object members => members.lookup name
  | _ => none

def isNull : Value → Bool
  | .null => true
  | _ => false

def array? : Value → Option (List Value)
  | .array items => some items
  | _ => none

def string? : Value → Option String
  | .string s => some s
  | _ => none

def isObject : Value → Bool
  | .object _ => true
  | _ => false

end Value

/-! ## As text -/

/-- A character of a string literal. The short escapes come first; the other controls are
    written by their code. -/
def escaped (c : Char) : List Char :=
  if c = '"' then ['\\', '"']
  else if c = '\\' then ['\\', '\\']
  else if c = '\n' then ['\\', 'n']
  else if c = '\r' then ['\\', 'r']
  else if c = '\t' then ['\\', 't']
  else if c.toNat = 8 then ['\\', 'b']
  else if c.toNat = 12 then ['\\', 'f']
  else if c.toNat < 32 then
    ['\\', 'u', '0', '0', Nat.digitChar (c.toNat / 16), Nat.digitChar (c.toNat % 16)]
  else [c]

def literal (s : String) : List Char := '"' :: s.toList.flatMap escaped ++ ['"']

namespace Value

mutual

def compactChars : Value → List Char
  | .null => "null".toList
  | .bool true => "true".toList
  | .bool false => "false".toList
  | .number n => n.text.toList
  | .string s => literal s
  | .array items => '[' :: compactItems items ++ [']']
  | .object members => '{' :: compactMembers members ++ ['}']

def compactItems : List Value → List Char
  | [] => []
  | [v] => compactChars v
  | v :: rest => compactChars v ++ ',' :: compactItems rest

def compactMembers : List (String × Value) → List Char
  | [] => []
  | [(name, v)] => literal name ++ ':' :: compactChars v
  | (name, v) :: rest => literal name ++ ':' :: compactChars v ++ ',' :: compactMembers rest

end

def compact (v : Value) : String := String.ofList v.compactChars

def newline (depth : Nat) : List Char := '\n' :: List.replicate (2 * depth) ' '

mutual

def prettyChars (depth : Nat) : Value → List Char
  | .null => "null".toList
  | .bool true => "true".toList
  | .bool false => "false".toList
  | .number n => n.text.toList
  | .string s => literal s
  | .array [] => ['[', ']']
  | .array items => '[' :: prettyItems (depth + 1) items ++ newline depth ++ [']']
  | .object [] => ['{', '}']
  | .object members => '{' :: prettyMembers (depth + 1) members ++ newline depth ++ ['}']

def prettyItems (depth : Nat) : List Value → List Char
  | [] => []
  | [v] => newline depth ++ prettyChars depth v
  | v :: rest => newline depth ++ prettyChars depth v ++ ',' :: prettyItems depth rest

def prettyMembers (depth : Nat) : List (String × Value) → List Char
  | [] => []
  | [(name, v)] => newline depth ++ literal name ++ ':' :: ' ' :: prettyChars depth v
  | (name, v) :: rest =>
    newline depth ++ literal name ++ ':' :: ' ' :: prettyChars depth v ++ ',' :: prettyMembers depth rest

end

def pretty (v : Value) : String := String.ofList (v.prettyChars 0)

end Value

end Tariff.Json
