/-
  Tariff.Text — texts as lists of characters.

  - `isBlank` is the White_Space property of Unicode. Trimming removes blanks at the two
    ends only.
  - Upper case is decided one character at a time and may be longer than what it came
    from (`upper 'ß'` is two characters). Lower case of a text looks around one character:
    a sigma that ends a word becomes `ς`, any other `σ`. ASCII lower case leaves every
    other character alone.
  - A quoted text shows every character: what would leave no mark is written by its code.
-/
import Tariff.Text.CasingTable
import Tariff.Text.QuotingTable

namespace Tariff.Text

/-! ## Blanks -/

/-- White space: the controls U+0009–U+000D, the space, and the spaces and separators
    outside ASCII. The zero-width characters are not white space. -/
def isBlank (c : Char) : Bool :=
  let n := c.toNat
  (9 ≤ n && n ≤ 13) || n == 0x20 || n == 0x85 || n == 0xA0 || n == 0x1680 ||
    (0x2000 ≤ n && n ≤ 0x200A) || n == 0x2028 || n == 0x2029 || n == 0x202F || n == 0x205F || n == 0x3000

def trimStart (cs : List Char) : List Char := cs.dropWhile isBlank

def trimEnd (cs : List Char) : List Char := (cs.reverse.dropWhile isBlank).reverse

def trim (s : String) : String := String.ofList (trimEnd (trimStart s.toList))

/-! ## One text in another -/

/-- `needle` stands somewhere in the text. The empty text stands everywhere. -/
def occursIn (needle : List Char) : List Char → Bool
  | [] => needle.isEmpty
  | c :: cs => needle.isPrefixOf (c :: cs) || occursIn needle cs

def splitFirst (c : Char) (cs : List Char) : Option (List Char × List Char) :=
  match cs.dropWhile (· != c) with
  | [] => none
  | _ :: rest => some (cs.takeWhile (· != c), rest)

/-- The pieces between the `c`s of a text; one more than there are `c`s. -/
def splitEvery (c : Char) : List Char → List (List Char)
  | [] => [[]]
  | d :: ds =>
    if d = c then [] :: splitEvery c ds
    else match splitEvery c ds with
      | [] => [[d]]
      | piece :: pieces => (d :: piece) :: pieces

/-! ## Upper and lower case -/

/-- The character that a table of shifts sends `c` to, which is `c` when no entry covers it. -/
def shifted (shifts : List (Nat × Nat × Nat × Int)) (c : Char) : Char :=
  let n := c.toNat
  match shifts.find? fun (first, last, step, _) => first ≤ n && n ≤ last && (n - first) % step == 0 with
  | some (_, _, _, shift) => Char.ofNat ((n : Int) + shift).toNat
  | none => c

def inSpans (spans : List (Nat × Nat)) (c : Char) : Bool :=
  spans.any fun (first, last) => first ≤ c.toNat && c.toNat ≤ last

def upper (c : Char) : List Char :=
  if c.toNat < 0x80 then [c.toUpper]
  else match upperExpansions.lookup c.toNat with
    | some ns => ns.map Char.ofNat
    | none => [shifted upperShifts c]

/-- The lower case of one character, sigma taken as one inside a word. -/
def lower (c : Char) : List Char :=
  if c.toNat < 0x80 then [c.toLower]
  else if c.toNat = 0x130 then ['i', Char.ofNat 0x307]
  else [shifted lowerShifts c]

def isCased (c : Char) : Bool :=
  if c.toNat < 0x80 then c.isAlpha else inSpans casedSpans c

def isCaseIgnorable (c : Char) : Bool := inSpans caseIgnorableSpans c

def startsCased (cs : List Char) : Bool :=
  match cs.find? (!isCaseIgnorable ·) with
  | some c => isCased c
  | none => false

/-- Lower case of `cs`, where `before` says whether the text in front of it, read
    backwards, starts cased. -/
def lowerFrom (before : Bool) : List Char → List Char
  | [] => []
  | c :: cs =>
    let here := if c = 'Σ' then (if before && !startsCased cs then ['ς'] else ['σ']) else lower c
    here ++ lowerFrom (if isCaseIgnorable c then before else isCased c) cs

def lowercase (s : String) : List Char := lowerFrom false s.toList

/-- Lower case of the letters A to Z only. -/
def asciiLower (s : String) : String := String.ofList (s.toList.map Char.toLower)

/-! ## Quoting -/

def isUnmarked (c : Char) : Bool :=
  if c.toNat < 0x80 then c.toNat < 0x20 || c.toNat == 0x7F else inSpans unmarkedSpans c

def quotedChar (c : Char) : List Char :=
  if c = '"' then ['\\', '"']
  else if c = '\\' then ['\\', '\\']
  else if c = '\n' then ['\\', 'n']
  else if c = '\r' then ['\\', 'r']
  else if c = '\t' then ['\\', 't']
  else if c.toNat = 0 then ['\\', '0']
  else if isUnmarked c then ['\\', 'u', '\x7b'] ++ Nat.toDigits 16 c.toNat ++ ['\x7d']
  else [c]

def quoted (s : String) : String := String.ofList ('"' :: s.toList.flatMap quotedChar ++ ['"'])

end Tariff.Text
