/-
  Tariff.Proofs.Json.Written — what is read from a JSON text.

  Every character of a string literal is written so that it alone is read from what is
  written: as it is, by one letter, or by its code.
  - `foldlM_escaped`: one character, whatever the literal holds already.
  - `read?_literal`: any text as JSON data.

  A whole number that is read has at most 64 bits, and any other is rounded to binary64.
  - `sized_of_read?`: so it is everywhere in the data of a text.
  - `Hereditary`: what can be said in this way of data and its parts.
-/
import Tariff.Json
import Tariff.Json.Written
import Tariff.Proofs.Binary64
import Tariff.Proofs.Table

namespace Tariff.Json

/-! ## Characters -/

theorem hexValue_digitChar : ∀ n < 16, Scan.hexValue (Nat.digitChar n) = some n := by decide

namespace Literal

def holding (cs : List Char) : Literal := ⟨cs.reverse, none, true⟩

theorem addChar_holding (cs : List Char) (c : Char) : (holding cs).addChar c = holding (cs ++ [c]) := by
  simp [holding, addChar]

theorem content_holding (cs : List Char) : (holding cs).content = some (String.ofList cs) := by
  simp [holding, content]

/-- The code of a control is no half of a surrogate pair. -/
theorem addUnit_of_control (l : Literal) {c : Char} (h : c.toNat < 32) : l.addUnit c.toNat = l.addChar c := by
  have hlow : ¬0xDC00 ≤ c.toNat := by omega
  have hhigh : ¬0xD800 ≤ c.toNat := by omega
  simp [addUnit, hlow, hhigh]

end Literal

/-- A character behind others of a literal. -/
theorem foldlM_escaped (done : List Lexeme) (cs : List Char) (c : Char) :
    (escaped c).foldlM Scan.step ⟨done, .string (.holding cs)⟩ =
      some ⟨done, .string (.holding (cs ++ [c]))⟩ := by
  rw [← Literal.addChar_holding]
  generalize Literal.holding cs = l
  unfold escaped
  -- the characters that one letter stands for, the last two of them without a name
  iterate 5
    split
    · rename_i h
      subst h
      rfl
  iterate 2
    split
    · rename_i h
      rw [← Char.ofNat_toNat c, h]
      rfl
  split
  · rename_i h
    have hhigh := hexValue_digitChar (c.toNat / 16) (by omega)
    have hlow := hexValue_digitChar (c.toNat % 16) (by omega)
    have hunit : 16 * (c.toNat / 16) + c.toNat % 16 = c.toNat := Nat.div_add_mod c.toNat 16
    have hzero : Scan.hexValue '0' = some 0 := by decide
    simp [Scan.step, hzero, hhigh, hlow, hunit, l.addUnit_of_control h]
  · rename_i hquote hslash _ _ _ _ _ hcontrol
    simp [Scan.step, hquote, hslash, hcontrol]

theorem foldlM_flatMap_escaped (done : List Lexeme) (cs ds : List Char) :
    (ds.flatMap escaped).foldlM Scan.step ⟨done, .string (.holding cs)⟩ =
      some ⟨done, .string (.holding (cs ++ ds))⟩ := by
  induction ds generalizing cs with
  | nil => simp
  | cons d ds ih =>
    rw [List.flatMap_cons, List.foldlM_append, foldlM_escaped]
    simpa using ih (cs ++ [d])

/-! ## Texts -/

theorem lexemes_literal (s : String) : lexemes (literal s) = some [.string (some s)] := by
  have hopen : Scan.step Scan.start '"' = some ⟨[], .string (.holding [])⟩ := rfl
  have hclose : ∀ cs, Scan.step ⟨[], .string (.holding cs)⟩ '"' =
      some ⟨[.string (some (String.ofList cs))], .between⟩ := by
    intro cs
    simp [Scan.step, Literal.content_holding]
  unfold lexemes literal
  rw [List.cons_append, List.foldlM_cons, hopen]
  simp [List.foldlM_append, foldlM_flatMap_escaped, hclose, Scan.close]

/-- A text is read back from its literal. -/
theorem read?_literal (s : String) : read? (Value.string s).compact = some (.string s) := by
  have htext : (Value.string s).compact.toList = literal s := by
    simp [Value.compact, Value.compactChars]
  have hwritten : Written.ofText (Value.string s).compact = some (.string (some s)) := by
    unfold Written.ofText
    rw [htext, lexemes_literal]
    rfl
  unfold read?
  rw [hwritten]
  rfl

/-! ## Numbers -/

def Number.Sized : Number → Prop
  | .whole n => leastWhole ≤ n ∧ n ≤ greatestWhole
  | .binary x => x.significand < twoTo 53

inductive Value.Sized : Value → Prop
  | null : Sized .null
  | bool (b : Bool) : Sized (.bool b)
  | number {n : Number} (h : n.Sized) : Sized (.number n)
  | string (s : String) : Sized (.string s)
  | array {items : List Value} (h : ∀ v ∈ items, Sized v) : Sized (.array items)
  | object {members : List (String × Value)} (h : ∀ m ∈ members, Sized m.2) : Sized (.object members)

namespace Written

theorem sized_of_number? {p : Numeral.Parts} {n : Number} (h : number? p = some n) : n.Sized := by
  unfold number? at h
  dsimp only at h
  generalize (if p.numeral.negative then -(p.numeral.digits : Int) else p.numeral.digits) = whole at h
  split_ifs at h with hwhole
  · cases h
    simp only [Bool.and_eq_true, decide_eq_true_eq] at hwhole
    exact ⟨hwhole.1.2, hwhole.2⟩
  · obtain ⟨x, hx, rfl⟩ := Option.map_eq_some_iff.mp h
    exact Binary64.significand_lt_of_ofNumeral hx

mutual

theorem sized_of_value? : ∀ {w : Written} {v : Value}, w.value? = some v → v.Sized
  | .null, v, h => by
    cases h
    exact .null
  | .bool b, v, h => by
    cases h
    exact .bool b
  | .number parts, v, h => by
    obtain ⟨n, hn, rfl⟩ := Option.map_eq_some_iff.mp h
    exact .number (sized_of_number? hn)
  | .string content, v, h => by
    obtain ⟨s, -, rfl⟩ := Option.map_eq_some_iff.mp h
    exact .string s
  | .array items, v, h => by
    obtain ⟨vs, hvs, rfl⟩ := Option.map_eq_some_iff.mp h
    exact .array (sized_of_valueItems? hvs)
  | .object members, v, h => by
    obtain ⟨ms, hms, rfl⟩ := Option.map_eq_some_iff.mp h
    exact .object fun m hm => sized_of_valueMembers? hms m (Table.mem_of_mem_ofList hm)

theorem sized_of_valueItems? : ∀ {ws : List Written} {vs : List Value}, valueItems? ws = some vs → ∀ v ∈ vs, v.Sized
  | [], vs, h => by
    cases h
    simp
  | w :: ws, vs, h => by
    simp only [valueItems?, bind, Option.bind_eq_some_iff] at h
    obtain ⟨v, hv, rest, hrest, ⟨⟩⟩ := h
    exact List.forall_mem_cons.mpr ⟨sized_of_value? hv, sized_of_valueItems? hrest⟩

theorem sized_of_valueMembers? : ∀ {ws : List (Option String × Written)} {ms : List (String × Value)},
    valueMembers? ws = some ms → ∀ m ∈ ms, m.2.Sized
  | [], ms, h => by
    cases h
    simp
  | (name, w) :: ws, ms, h => by
    simp only [valueMembers?, bind, Option.bind_eq_some_iff] at h
    obtain ⟨s, -, v, hv, rest, hrest, ⟨⟩⟩ := h
    exact List.forall_mem_cons.mpr ⟨sized_of_value? hv, sized_of_valueMembers? hrest⟩

end

end Written

theorem sized_of_read? {s : String} {v : Value} (h : read? s = some v) : v.Sized := by
  simp only [read?, bind, Option.bind_eq_some_iff] at h
  obtain ⟨w, -, hv⟩ := h
  split_ifs at hv
  exact Written.sized_of_value? hv

/-- What holds of data holds of its parts too, and it holds of all data that is read. -/
structure Hereditary (S : Value → Prop) : Prop where
  item : ∀ {items v}, S (.array items) → v ∈ items → S v
  member : ∀ {members m}, S (.object members) → m ∈ members → S m.2
  read : ∀ {s v}, read? s = some v → S v

theorem hereditary_sized : Hereditary Value.Sized where
  item h := by
    cases h with
    | array h => exact h _
  member h := by
    cases h with
    | object h => exact h _
  read := sized_of_read?

theorem hereditary_true : Hereditary fun _ => True := ⟨fun _ _ => trivial, fun _ _ => trivial, fun _ => trivial⟩

theorem Hereditary.of_lookup {S : Value → Prop} (hS : Hereditary S) {members : List (String × Value)}
    (h : S (.object members)) {name : String} {v : Value} (hv : members.lookup name = some v) : S v :=
  hS.member h (Table.mem_of_lookup hv)

end Tariff.Json
