/-
  Tariff.Json.Written — JSON documents as they are written, and the data they hold.

  The lexemes are found in one pass over the characters, one step each (`Scan.step`). A
  number and a word end at the first character that cannot belong to them, which is then
  read on its own. A string literal may hold half of a surrogate pair, escaped; it is then
  a lexeme without content, and only those who want the content refuse it.

  `Written` keeps what a text says beyond its data: the order of members and members
  written twice, numbers as digits, string literals without content. `Written.value?`
  gives the data: members in ascending order, the last of one name counting; a whole
  number exactly when it has at most 64 bits and no fraction or exponent. There is no
  data in a number too large for binary64, nor in half a surrogate pair.

  `read?` reads a text whose arrays and objects nest at most 127 deep.
-/
import Tariff.Numeral
import Tariff.Json

namespace Tariff.Json

/-! ## Lexemes -/

inductive Lexeme where
  | openArray
  | closeArray
  | openObject
  | closeObject
  | comma
  | colon
  | null
  | bool (b : Bool)
  | number (parts : Numeral.Parts)
  /-- A string literal, and its content if it has one. -/
  | string (content : Option String)
  deriving DecidableEq, Repr

/-- The number grammar of JSON: no plus sign in front, digits on both sides of a point and
    behind an exponent mark, and no zero in front of other digits. -/
def isNumber (p : Numeral.Parts) : Bool :=
  p.sign != some '+' && !p.whole.isEmpty && (p.whole.length == 1 || p.whole.head? != some '0') &&
    p.fraction != some [] && !p.exponent.any (·.2.isEmpty)

/-- A string literal in progress: its characters in reverse, the first half of a surrogate
    pair when one was just read, and whether every half so far found its other. -/
structure Literal where
  text : List Char
  pending : Option Nat
  sound : Bool

namespace Literal

def start : Literal := ⟨[], none, true⟩

def addChar (l : Literal) (c : Char) : Literal := ⟨c :: l.text, none, l.sound && l.pending.isNone⟩

def addUnit (l : Literal) (unit : Nat) : Literal :=
  if 0xDC00 ≤ unit && unit < 0xE000 then
    match l.pending with
    | some high => ⟨Char.ofNat (0x10000 + (high - 0xD800) * 0x400 + (unit - 0xDC00)) :: l.text, none, l.sound⟩
    | none => ⟨l.text, none, false⟩
  else if 0xD800 ≤ unit && unit < 0xDC00 then ⟨l.text, some unit, l.sound && l.pending.isNone⟩
  else l.addChar (Char.ofNat unit)

def content (l : Literal) : Option String :=
  if l.sound && l.pending.isNone then some (String.ofList l.text.reverse) else none

end Literal

/-- What the next character belongs to. The characters of a number and of a word are kept
    in reverse. -/
inductive Mode where
  | between
  | number (read : List Char)
  | word (read : List Char)
  | string (l : Literal)
  | escape (l : Literal)
  | code (l : Literal) (missing : Nat) (unit : Nat)

/-- The lexemes read so far, in reverse, and what is being read. -/
structure Scan where
  done : List Lexeme
  mode : Mode

namespace Scan

def start : Scan := ⟨[], .between⟩

def isNumberChar (c : Char) : Bool :=
  isDigit c || c == '-' || c == '+' || c == '.' || c == 'e' || c == 'E'

def isWordChar (c : Char) : Bool := 'a' ≤ c && c ≤ 'z'

def isGap (c : Char) : Bool := c == ' ' || c == '\t' || c == '\n' || c == '\r'

def word? (cs : List Char) : Option Lexeme :=
  if cs = "null".toList then some .null
  else if cs = "true".toList then some (.bool true)
  else if cs = "false".toList then some (.bool false)
  else none

def close : Scan → Option (List Lexeme)
  | ⟨done, .between⟩ => some done
  | ⟨done, .number read⟩ => do
    let parts ← Numeral.Parts.ofChars read.reverse
    if isNumber parts then some (.number parts :: done) else none
  | ⟨done, .word read⟩ => (word? read.reverse).map (· :: done)
  | _ => none

def begin (done : List Lexeme) (c : Char) : Option Scan :=
  if isGap c then some ⟨done, .between⟩
  else if c = '[' then some ⟨.openArray :: done, .between⟩
  else if c = ']' then some ⟨.closeArray :: done, .between⟩
  else if c = '{' then some ⟨.openObject :: done, .between⟩
  else if c = '}' then some ⟨.closeObject :: done, .between⟩
  else if c = ',' then some ⟨.comma :: done, .between⟩
  else if c = ':' then some ⟨.colon :: done, .between⟩
  else if c = '"' then some ⟨done, .string .start⟩
  else if isDigit c || c == '-' then some ⟨done, .number [c]⟩
  else if isWordChar c then some ⟨done, .word [c]⟩
  else none

def hexValue (c : Char) : Option Nat :=
  if isDigit c then some (digitValue c)
  else if 'a' ≤ c && c ≤ 'f' then some (c.toNat - 'a'.toNat + 10)
  else if 'A' ≤ c && c ≤ 'F' then some (c.toNat - 'A'.toNat + 10)
  else none

def escapeChar (c : Char) : Option Char :=
  match c with
  | '"' => some '"'
  | '\\' => some '\\'
  | '/' => some '/'
  | 'b' => some (Char.ofNat 8)
  | 'f' => some (Char.ofNat 12)
  | 'n' => some '\n'
  | 'r' => some '\r'
  | 't' => some '\t'
  | _ => none

def step (s : Scan) (c : Char) : Option Scan :=
  match s.mode with
  | .between => begin s.done c
  | .number read => if isNumberChar c then some ⟨s.done, .number (c :: read)⟩ else s.close >>= (begin · c)
  | .word read => if isWordChar c then some ⟨s.done, .word (c :: read)⟩ else s.close >>= (begin · c)
  | .string l =>
    if c = '"' then some ⟨.string l.content :: s.done, .between⟩
    else if c = '\\' then some ⟨s.done, .escape l⟩
    else if c.toNat < 32 then none
    else some ⟨s.done, .string (l.addChar c)⟩
  | .escape l =>
    if c = 'u' then some ⟨s.done, .code l 3 0⟩
    else (escapeChar c).map fun d => ⟨s.done, .string (l.addChar d)⟩
  | .code l missing unit =>
    (hexValue c).map fun d =>
      match missing with
      | 0 => ⟨s.done, .string (l.addUnit (16 * unit + d))⟩
      | missing + 1 => ⟨s.done, .code l missing (16 * unit + d)⟩

end Scan

def lexemes (cs : List Char) : Option (List Lexeme) := do
  let s ← cs.foldlM Scan.step Scan.start
  let done ← s.close
  return done.reverse

/-! ## Documents -/

inductive Written where
  | null
  | bool (b : Bool)
  | number (parts : Numeral.Parts)
  | string (content : Option String)
  | array (items : List Written)
  | object (members : List (Option String × Written))
  deriving Repr

/-- A container that is not closed yet, with what it holds so far in reverse. A `member`
    waits for the value of a name. -/
inductive Frame where
  | array (items : List Written)
  | member (members : List (Option String × Written)) (name : Option String)

/-- What may come next. A `closing` bracket may come where a container is still empty. -/
inductive Reader where
  | value (closing : Bool) (frames : List Frame)
  | key (closing : Bool) (members : List (Option String × Written)) (frames : List Frame)
  | colon (members : List (Option String × Written)) (name : Option String) (frames : List Frame)
  | more (frames : List Frame)
  | done (w : Written)

namespace Reader

def start : Reader := .value false []

/-- Hands a complete value to the container that waits for it. -/
def complete (w : Written) : List Frame → Reader
  | [] => .done w
  | .array items :: frames => .more (.array (w :: items) :: frames)
  | .member members name :: frames => .more (.member ((name, w) :: members) name :: frames)

def step : Reader → Lexeme → Option Reader
  | .value _ frames, .null => some (complete .null frames)
  | .value _ frames, .bool b => some (complete (.bool b) frames)
  | .value _ frames, .number parts => some (complete (.number parts) frames)
  | .value _ frames, .string content => some (complete (.string content) frames)
  | .value _ frames, .openArray => some (.value true (.array [] :: frames))
  | .value _ frames, .openObject => some (.key true [] frames)
  | .value true (.array [] :: frames), .closeArray => some (complete (.array []) frames)
  | .key _ members frames, .string name => some (.colon members name frames)
  | .key true [] frames, .closeObject => some (complete (.object []) frames)
  | .colon members name frames, .colon => some (.value false (.member members name :: frames))
  | .more (.array items :: frames), .comma => some (.value false (.array items :: frames))
  | .more (.array items :: frames), .closeArray => some (complete (.array items.reverse) frames)
  | .more (.member members _ :: frames), .comma => some (.key false members frames)
  | .more (.member members _ :: frames), .closeObject => some (complete (.object members.reverse) frames)
  | _, _ => none

end Reader

namespace Written

def ofLexemes (ls : List Lexeme) : Option Written :=
  match ls.foldlM Reader.step Reader.start with
  | some (.done w) => some w
  | _ => none

def ofText (s : String) : Option Written := lexemes s.toList >>= ofLexemes

mutual

def depth : Written → Nat
  | .array items => depthItems items + 1
  | .object members => depthMembers members + 1
  | _ => 0

def depthItems : List Written → Nat
  | [] => 0
  | w :: rest => max (depth w) (depthItems rest)

def depthMembers : List (Option String × Written) → Nat
  | [] => 0
  | (_, w) :: rest => max (depth w) (depthMembers rest)

end

/-- A written number. Negative zero has a sign to keep, so it is not a whole number. -/
def number? (p : Numeral.Parts) : Option Number :=
  let n := p.numeral
  let whole : Int := if n.negative then -(n.digits : Int) else n.digits
  if p.fraction.isNone && p.exponent.isNone && !(n.negative && n.digits == 0) &&
      Number.leastWhole ≤ whole && whole ≤ Number.greatestWhole then
    some (.whole whole)
  else (Binary64.ofNumeral n).map .binary

mutual

def value? : Written → Option Value
  | .null => some .null
  | .bool b => some (.bool b)
  | .number parts => (number? parts).map .number
  | .string content => content.map .string
  | .array items => (valueItems? items).map .array
  | .object members => (valueMembers? members).map fun ms => .object (Table.ofList ms).entries

def valueItems? : List Written → Option (List Value)
  | [] => some []
  | w :: rest => do return (← value? w) :: (← valueItems? rest)

def valueMembers? : List (Option String × Written) → Option (List (String × Value))
  | [] => some []
  | (name, w) :: rest => do return (← name, ← value? w) :: (← valueMembers? rest)

end

end Written

def maxDepth : Nat := 127

def read? (s : String) : Option Value := do
  let w ← Written.ofText s
  if w.depth ≤ maxDepth then w.value? else none

end Tariff.Json
