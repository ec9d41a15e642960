/-
  Tariff.Proofs.Numeral — written numbers and their parts.

  `Parts.chars` puts parts together again. The texts that a number can be read from are
  those put together from valid parts, and reading gives these parts back.
  - `ofChars_eq_some_iff`: a number is read from valid parts.
  - `Parts.ofChars_eq_some_iff`: the text of parts.
-/
import Mathlib.Data.List.Chain
import Mathlib.Data.List.TakeWhile
import Tariff.Numeral

namespace Tariff

/-! ## Digits -/

theorem isDigit_iff {c : Char} : isDigit c = true ↔ 48 ≤ c.toNat ∧ c.toNat ≤ 57 := by
  simp [isDigit, Char.le_def, UInt32.le_iff_toNat_le]

theorem digitValue_le {c : Char} (h : isDigit c = true) : digitValue c ≤ 9 := by
  have hc := (isDigit_iff.mp h).2
  have hzero : '0'.toNat = 48 := rfl
  unfold digitValue
  omega

theorem digitsValue_append (as bs : List Char) :
    digitsValue (as ++ bs) = digitsValue as * tenTo bs.length + digitsValue bs := by
  show Nat.ofDigitChars 10 (as ++ bs) 0 = Nat.ofDigitChars 10 as 0 * 10 ^ bs.length + Nat.ofDigitChars 10 bs 0
  rw [Nat.ofDigitChars_append, Nat.ofDigitChars_eq_ofDigitChars_zero, Nat.mul_comm]

theorem digitsValue_cons (d : Char) (ds : List Char) :
    digitsValue (d :: ds) = digitValue d * tenTo ds.length + digitsValue ds := by
  have h := digitsValue_append [d] ds
  have hone : digitsValue [d] = digitValue d := by simp [digitsValue]
  rwa [hone] at h

theorem digitsValue_lt {ds : List Char} (h : ∀ d ∈ ds, isDigit d = true) : digitsValue ds < tenTo ds.length := by
  induction ds with
  | nil => decide
  | cons d ds ih =>
    obtain ⟨hd, hds⟩ := List.forall_mem_cons.mp h
    have hrest := ih hds
    have hle := digitValue_le hd
    have hten : tenTo (ds.length + 1) = 10 * tenTo ds.length := Nat.pow_succ'
    have hmul : digitValue d * tenTo ds.length ≤ 9 * tenTo ds.length := Nat.mul_le_mul_right _ hle
    rw [digitsValue_cons, List.length_cons, hten]
    omega

theorem ne_underscore {c : Char} (h : isDigit c = true) : c ≠ '_' := by
  rintro rfl
  exact absurd h (by decide)

/-- A row of digits behind a number, between two neighbours. -/
theorem ofDigitChars_bounds {ds : List Char} (h : ∀ d ∈ ds, isDigit d = true) (n : Nat) :
    n * tenTo ds.length ≤ Nat.ofDigitChars 10 ds n ∧ Nat.ofDigitChars 10 ds n < (n + 1) * tenTo ds.length := by
  have hlt : Nat.ofDigitChars 10 ds 0 < tenTo ds.length := digitsValue_lt h
  have hten : 10 ^ ds.length = tenTo ds.length := rfl
  rw [Nat.ofDigitChars_eq_ofDigitChars_zero, hten, Nat.mul_comm (tenTo ds.length) n, Nat.add_mul, Nat.one_mul]
  omega

theorem readNat_digits {ds : List Char} (h : ∀ d ∈ ds, isDigit d = true) (hne : ds ≠ []) {sign : Option Char}
    (hs : sign = none ∨ sign = some '+') : readNat (sign.toList ++ ds) = some (digitsValue ds) := by
  have hread : (!ds.isEmpty && ds.all isDigit) = true := by simpa [hne] using h
  obtain ⟨d, ds, rfl⟩ := List.exists_cons_of_ne_nil hne
  have hplus : d ≠ '+' := by
    rintro rfl
    exact absurd (h '+' List.mem_cons_self) (by decide)
  rcases hs with rfl | rfl
  · unfold readNat
    split
    · simp_all
    · rw [Option.toList_none, List.nil_append, if_pos hread]
  · exact if_pos hread

theorem readNat_eq {cs : List Char} {n : Nat} (h : readNat cs = some n) :
    ∃ sign ds, cs = Option.toList sign ++ ds ∧ (sign = none ∨ sign = some '+') ∧ ds ≠ [] ∧
      ∀ d ∈ ds, isDigit d = true := by
  have digits : ∀ ds : List Char, (if !ds.isEmpty && ds.all isDigit then some (digitsValue ds) else none) = some n →
      ds ≠ [] ∧ ∀ d ∈ ds, isDigit d = true := by
    intro ds hds
    split_ifs at hds with hread
    simpa using hread
  unfold readNat at h
  split at h
  · exact ⟨some '+', _, rfl, .inr rfl, digits _ h⟩
  · exact ⟨none, _, rfl, .inl rfl, digits _ h⟩

theorem digitsValue_digitsOf (n : Nat) : digitsValue (digitsOf n) = n := Nat.ofDigitChars_ten_toDigits

theorem isDigit_of_mem_digitsOf {n : Nat} {c : Char} (h : c ∈ digitsOf n) : isDigit c = true := by
  have hc := Nat.isDigit_of_mem_toDigits (by decide) (by decide) h
  simpa [isDigit, Char.isDigit, Char.le_def, UInt32.le_iff_toNat_le] using hc

theorem digitsOf_ne_nil (n : Nat) : digitsOf n ≠ [] := Nat.toDigits_ne_nil

namespace Numeral

/-! ## Parts and their text -/

def isMark (c : Char) : Bool := c == 'e' || c == 'E'

def fractionChars : Option (List Char) → List Char
  | none => []
  | some ds => '.' :: ds

def exponentChars (mark : Char) : Option (Option Char × List Char) → List Char
  | none => []
  | some (sign, ds) => mark :: (sign.toList ++ ds)

def Parts.body (p : Parts) : List Char := p.whole ++ fractionChars p.fraction

def Parts.chars (p : Parts) (mark : Char) : List Char := p.sign.toList ++ (p.body ++ exponentChars mark p.exponent)

structure Parts.Formed (p : Parts) : Prop where
  sign : ∀ c ∈ p.sign, isSign c = true
  whole : ∀ c ∈ p.whole, isDigit c = true
  fraction : ∀ ds ∈ p.fraction, ∀ c ∈ ds, isDigit c = true
  exponentSign : ∀ e ∈ p.exponent, ∀ c ∈ e.1, isSign c = true
  exponentDigits : ∀ e ∈ p.exponent, ∀ c ∈ e.2, isDigit c = true

/-- Parts of a number: there are digits around the point, and behind a mark. -/
structure Parts.Valid (p : Parts) : Prop extends p.Formed where
  someDigit : p.whole ++ p.fraction.getD [] ≠ []
  someExponent : ∀ e ∈ p.exponent, e.2 ≠ []

def Parts.digits (p : Parts) : Nat := digitsValue (p.whole ++ p.fraction.getD [])

def Parts.places (p : Parts) : Nat := (p.fraction.getD []).length

def Parts.power (p : Parts) : Int :=
  match p.exponent with
  | none => 0
  | some (sign, ds) => if sign = some '-' then -(digitsValue ds : Int) else digitsValue ds

theorem Parts.numeral_eq (p : Parts) : p.numeral = ⟨p.sign = some '-', p.digits, p.power - p.places⟩ := rfl

theorem isSign_of_isDigit {c : Char} (h : isDigit c = true) : isSign c = false := by
  have hc := isDigit_iff.mp h
  by_contra hs
  simp only [isSign, Bool.not_eq_false, Bool.or_eq_true, beq_iff_eq] at hs
  rcases hs with rfl | rfl <;> exact absurd hc.1 (by decide)

theorem isDigit_of_isMark {c : Char} (h : isMark c = true) : isDigit c = false := by
  simp only [isMark, Bool.or_eq_true, beq_iff_eq] at h
  rcases h with rfl | rfl <;> rfl

theorem isSign_of_isMark {c : Char} (h : isMark c = true) : isSign c = false := by
  simp only [isMark, Bool.or_eq_true, beq_iff_eq] at h
  rcases h with rfl | rfl <;> rfl

theorem ne_point_of_isMark {c : Char} (h : isMark c = true) : c ≠ '.' := by
  rintro rfl
  exact absurd h (by decide)

/-! ## Reading the text of parts -/

theorem span_digits {ds rest : List Char} (h : ∀ d ∈ ds, isDigit d = true)
    (hr : ∀ c ∈ rest.head?, isDigit c = false) :
    (ds ++ rest).takeWhile isDigit = ds ∧ (ds ++ rest).dropWhile isDigit = rest := by
  rw [List.takeWhile_append_of_pos h, List.dropWhile_append_of_pos h]
  cases rest with
  | nil => simp
  | cons c rest =>
    have hc : isDigit c = false := hr c rfl
    simp [hc]

theorem takeSign_append {s : Option Char} {cs : List Char} (hs : ∀ c ∈ s, isSign c = true)
    (hc : ∀ c ∈ cs.head?, isSign c = false) : takeSign (s.toList ++ cs) = (s, cs) := by
  cases s with
  | some c => simp [takeSign, hs c rfl]
  | none =>
    cases cs with
    | nil => rfl
    | cons c cs => simp [takeSign, hc c rfl]

theorem takeFraction_append {f : Option (List Char)} {rest : List Char} (hf : ∀ ds ∈ f, ∀ c ∈ ds, isDigit c = true)
    (hr : ∀ c ∈ rest.head?, isDigit c = false ∧ c ≠ '.') : takeFraction (fractionChars f ++ rest) = (f, rest) := by
  cases f with
  | some ds =>
    obtain ⟨ht, hd⟩ := span_digits (hf ds rfl) fun c hc => (hr c hc).1
    simp [fractionChars, takeFraction, ht, hd]
  | none =>
    cases rest with
    | nil => rfl
    | cons c rest =>
      have hc := (hr c rfl).2
      simp only [fractionChars, List.nil_append]
      unfold takeFraction
      split
      · simp_all
      · rfl

theorem takeExponent_chars {mark : Char} (hm : isMark mark = true) {e : Option (Option Char × List Char)}
    (hs : ∀ x ∈ e, ∀ c ∈ x.1, isSign c = true) (hd : ∀ x ∈ e, ∀ c ∈ x.2, isDigit c = true) :
    takeExponent (exponentChars mark e) = some e := by
  cases e with
  | none => rfl
  | some e =>
    obtain ⟨s, ds⟩ := e
    have hds : ∀ c ∈ ds, isDigit c = true := hd (s, ds) rfl
    have hsign : takeSign (s.toList ++ ds) = (s, ds) :=
      takeSign_append (hs (s, ds) rfl) fun c hc => isSign_of_isDigit (hds c (List.mem_of_mem_head? hc))
    have hall : ds.all isDigit = true := List.all_eq_true.mpr hds
    have hm : (mark == 'e' || mark == 'E') = true := hm
    simp only [exponentChars, takeExponent, hm, hsign, hall, if_true]

theorem head?_exponentChars {mark c : Char} {e : Option (Option Char × List Char)}
    (h : c ∈ (exponentChars mark e).head?) : c = mark := by
  cases e with
  | none => cases h
  | some e => exact (Option.some.inj h).symm

theorem head?_body_append {p : Parts} (hp : p.Formed) {rest : List Char} {c : Char}
    (h : c ∈ (p.body ++ rest).head?) : isDigit c = true ∨ c = '.' ∨ c ∈ rest.head? := by
  unfold Parts.body at h
  cases hw : p.whole with
  | cons d ds =>
    rw [hw] at h
    rw [← Option.some.inj h]
    exact .inl (hp.whole d (by rw [hw]; exact List.mem_cons_self))
  | nil =>
    rw [hw] at h
    cases hf : p.fraction with
    | some ds =>
      rw [hf] at h
      exact .inr (.inl (Option.some.inj h).symm)
    | none =>
      rw [hf] at h
      exact .inr (.inr h)

theorem isSign_head?_body {p : Parts} (hp : p.Formed) (rest : List Char)
    (hr : ∀ c ∈ rest.head?, isSign c = false) : ∀ c ∈ (p.body ++ rest).head?, isSign c = false := by
  intro c hc
  rcases head?_body_append hp hc with hd | rfl | hc
  · exact isSign_of_isDigit hd
  · rfl
  · exact hr c hc

/-- The parts of a text that was put together from parts. -/
theorem Parts.ofChars_chars {p : Parts} (hp : p.Formed) {mark : Char} (hm : isMark mark = true) :
    Parts.ofChars (p.chars mark) = some p := by
  have htail : ∀ c ∈ (exponentChars mark p.exponent).head?, isDigit c = false ∧ c ≠ '.' := by
    intro c hc
    rw [head?_exponentChars hc]
    exact ⟨isDigit_of_isMark hm, ne_point_of_isMark hm⟩
  have hsign : takeSign (p.chars mark) = (p.sign, p.body ++ exponentChars mark p.exponent) := by
    refine takeSign_append hp.sign (isSign_head?_body hp _ ?_)
    intro c hc
    rw [head?_exponentChars hc]
    exact isSign_of_isMark hm
  have hfraction : ∀ c ∈ (fractionChars p.fraction ++ exponentChars mark p.exponent).head?, isDigit c = false := by
    intro c hc
    cases hf : p.fraction with
    | some ds =>
      rw [hf] at hc
      cases Option.some.inj hc
      rfl
    | none =>
      rw [hf] at hc
      exact (htail c hc).1
  obtain ⟨htake, hdrop⟩ := span_digits hp.whole hfraction
  unfold Parts.ofChars
  rw [hsign, Parts.body, List.append_assoc]
  simp only [htake, hdrop, takeFraction_append hp.fraction htail,
    takeExponent_chars hm hp.exponentSign hp.exponentDigits, Option.map_some]

/-! ## The parts that are read -/

theorem takeSign_eq {cs rest : List Char} {s : Option Char} (h : takeSign cs = (s, rest)) :
    cs = s.toList ++ rest ∧ ∀ c ∈ s, isSign c = true := by
  cases cs with
  | nil =>
    cases h
    simp
  | cons c cs =>
    rw [takeSign] at h
    by_cases hc : isSign c = true
    · rw [if_pos hc] at h
      cases h
      simp [hc]
    · rw [if_neg hc] at h
      cases h
      simp

theorem takeFraction_eq {cs rest : List Char} {f : Option (List Char)} (h : takeFraction cs = (f, rest)) :
    cs = fractionChars f ++ rest ∧ ∀ ds ∈ f, ∀ c ∈ ds, isDigit c = true := by
  unfold takeFraction at h
  split at h
  · rename_i cs
    cases h
    refine ⟨?_, ?_⟩
    · rw [fractionChars, List.cons_append, List.takeWhile_append_dropWhile]
    · intro ds hds c hc
      cases Option.some.inj hds
      exact List.mem_takeWhile_imp hc
  · cases h
    exact ⟨rfl, fun ds hds => by cases hds⟩

theorem takeExponent_eq {cs : List Char} {e : Option (Option Char × List Char)} (h : takeExponent cs = some e) :
    (∃ mark, isMark mark = true ∧ cs = exponentChars mark e) ∧
      (∀ x ∈ e, ∀ c ∈ x.1, isSign c = true) ∧ ∀ x ∈ e, ∀ c ∈ x.2, isDigit c = true := by
  cases cs with
  | nil =>
    cases h
    exact ⟨⟨'e', rfl, rfl⟩, by simp, by simp⟩
  | cons mark cs =>
    by_cases hm : isMark mark = true
    · have hmark : (mark == 'e' || mark == 'E') = true := hm
      rcases hsign : takeSign cs with ⟨sign, ds⟩
      obtain ⟨rfl, hs⟩ := takeSign_eq hsign
      by_cases hds : ds.all isDigit = true
      · simp only [takeExponent, hmark, hsign, hds, if_true] at h
        cases h
        refine ⟨⟨mark, hm, rfl⟩, ?_, ?_⟩
        · intro x hx
          cases Option.some.inj hx
          exact hs
        · intro x hx
          cases Option.some.inj hx
          exact List.all_eq_true.mp hds
      · simp [takeExponent, hmark, hsign, hds] at h
    · have hmark : ¬(mark == 'e' || mark == 'E') = true := hm
      rw [takeExponent, if_neg hmark] at h
      cases h

/-- The parts of a text are those that it is put together from. -/
theorem Parts.ofChars_eq_some_iff {cs : List Char} {p : Parts} :
    Parts.ofChars cs = some p ↔ p.Formed ∧ ∃ mark, isMark mark = true ∧ cs = p.chars mark := by
  constructor
  · intro h
    unfold Parts.ofChars at h
    rcases hsign : takeSign cs with ⟨sign, ds⟩
    rcases hfraction : takeFraction (ds.dropWhile isDigit) with ⟨fraction, rest⟩
    simp only [hsign, hfraction] at h
    obtain ⟨e, he, rfl⟩ := Option.map_eq_some_iff.mp h
    obtain ⟨rfl, hs⟩ := takeSign_eq hsign
    obtain ⟨hcs, hf⟩ := takeFraction_eq hfraction
    obtain ⟨⟨mark, hm, rfl⟩, hes, hed⟩ := takeExponent_eq he
    refine ⟨⟨hs, fun c hc => List.mem_takeWhile_imp hc, hf, hes, hed⟩, mark, hm, ?_⟩
    rw [Parts.chars, Parts.body, List.append_assoc, ← hcs, List.takeWhile_append_dropWhile]
  · rintro ⟨hp, mark, hm, rfl⟩
    exact Parts.ofChars_chars hp hm

theorem Parts.Formed.valid_iff {p : Parts} (hp : p.Formed) :
    p.Valid ↔ ¬(p.whole.isEmpty && (p.fraction.getD []).isEmpty) = true ∧ ¬p.exponent.any (·.2.isEmpty) = true := by
  have hd : p.whole ++ p.fraction.getD [] ≠ [] ↔ ¬(p.whole.isEmpty && (p.fraction.getD []).isEmpty) = true := by
    simp [List.isEmpty_iff]
  have he : (∀ e ∈ p.exponent, e.2 ≠ []) ↔ ¬p.exponent.any (·.2.isEmpty) = true := by
    cases p.exponent <;> simp [List.isEmpty_iff]
  rw [← hd, ← he]
  exact ⟨fun hv => ⟨hv.someDigit, hv.someExponent⟩, fun hv => ⟨hp, hv.1, hv.2⟩⟩

/-- A number is read from valid parts. -/
theorem ofChars_eq_some_iff {cs : List Char} {n : Numeral} :
    Numeral.ofChars cs = some n ↔ ∃ p, Parts.ofChars cs = some p ∧ p.Valid ∧ p.numeral = n := by
  unfold Numeral.ofChars
  cases h : Parts.ofChars cs with
  | none => simp
  | some p =>
    have hvalid := (Parts.ofChars_eq_some_iff.mp h).1.valid_iff
    simp only [bind, Option.bind, Option.some.injEq, exists_eq_left', hvalid]
    split_ifs with hd he
    · simp [hd]
    · simp [he]
    · simp [hd, he]

/-! ## Tidy texts -/

/-- A text without underscores and without a sign behind a minus. -/
structure Tidy (cs : List Char) : Prop where
  noUnderscore : '_' ∉ cs
  noSecondSign : ¬['-', '+'] <:+: cs

theorem not_mem_fractionChars {c : Char} {f : Option (List Char)} (hf : ∀ ds ∈ f, ∀ c ∈ ds, isDigit c = true)
    (hc : isDigit c = false) (hp : c ≠ '.') : c ∉ fractionChars f := by
  cases f with
  | none => exact List.not_mem_nil
  | some ds =>
    rw [fractionChars, List.mem_cons]
    rintro (rfl | hmem)
    · exact hp rfl
    · rw [hf ds rfl c hmem] at hc
      cases hc

theorem not_mem_body {p : Parts} (hp : p.Formed) {c : Char} (hc : isDigit c = false) (hpoint : c ≠ '.') :
    c ∉ p.body := by
  rw [Parts.body, List.mem_append]
  rintro (hmem | hmem)
  · rw [hp.whole c hmem] at hc
    cases hc
  · exact not_mem_fractionChars hp.fraction hc hpoint hmem

theorem not_mem_chars {p : Parts} (hp : p.Formed) {mark c : Char} (hc : isDigit c = false) (hpoint : c ≠ '.')
    (hsign : isSign c = false) (hmark : c ≠ mark) : c ∉ p.chars mark := by
  have hnot : ∀ sign : Option Char, (∀ x ∈ sign, isSign x = true) → c ∉ sign.toList := by
    intro sign hs hmem
    rw [hs c (Option.mem_toList.mp hmem)] at hsign
    cases hsign
  have hexponent : c ∉ exponentChars mark p.exponent := by
    cases he : p.exponent with
    | none => exact List.not_mem_nil
    | some e =>
      rw [exponentChars, List.mem_cons, List.mem_append]
      rintro (rfl | hmem | hmem)
      · exact hmark rfl
      · exact hnot e.1 (hp.exponentSign e he) hmem
      · rw [hp.exponentDigits e he c hmem] at hc
        cases hc
  rw [Parts.chars, List.mem_append, List.mem_append]
  rintro (hmem | hmem | hmem)
  · exact hnot p.sign hp.sign hmem
  · exact not_mem_body hp hc hpoint hmem
  · exact hexponent hmem

/-- Two characters that may follow one another: not a minus and a plus. -/
def Follows (a b : Char) : Prop := ¬(a = '-' ∧ b = '+')

theorem noSecondSign_of_isChain {cs : List Char} (h : cs.IsChain Follows) : ¬['-', '+'] <:+: cs := by
  intro hpart
  have hpair := h.infix hpart
  rw [List.isChain_pair] at hpair
  exact hpair ⟨rfl, rfl⟩

theorem isChain_of_not_mem {cs : List Char} (h : '-' ∉ cs ∨ '+' ∉ cs) : cs.IsChain Follows := by
  refine (List.pairwise_of_forall_mem_list ?_).isChain
  rintro a ha b hb ⟨rfl, rfl⟩
  rcases h with h | h
  · exact h ha
  · exact h hb

theorem isChain_sign {sign : Option Char} {cs : List Char} (hcs : cs.IsChain Follows) (h : ∀ c ∈ cs.head?, c ≠ '+') :
    (sign.toList ++ cs).IsChain Follows := by
  refine List.isChain_append.mpr ⟨?_, hcs, ?_⟩
  · cases sign <;> simp
  · rintro a - b hb ⟨-, rfl⟩
    exact h '+' hb rfl

/-- The text of a number is tidy. -/
theorem Parts.Valid.tidy {p : Parts} (hp : p.Valid) {mark : Char} (hm : isMark mark = true) : Tidy (p.chars mark) := by
  have hf := hp.toFormed
  have hminus : mark ≠ '-' := by
    rintro rfl
    exact absurd hm (by decide)
  have hunder : '_' ≠ mark := by
    rintro rfl
    exact absurd hm (by decide)
  have hexponent : (exponentChars mark p.exponent).IsChain Follows := by
    cases he : p.exponent with
    | none => exact .nil
    | some e =>
      have hdigits := hf.exponentDigits e he
      have hplus : ∀ c ∈ e.2, c ≠ '+' := by
        rintro c hc rfl
        exact absurd (hdigits '+' hc) (by decide)
      have hrest : (e.1.toList ++ e.2).IsChain Follows := by
        refine isChain_sign (isChain_of_not_mem (.inr fun hmem => hplus '+' hmem rfl)) ?_
        intro c hc
        exact hplus c (List.mem_of_mem_head? hc)
      refine List.IsChain.cons hrest ?_
      rintro c - ⟨rfl, -⟩
      exact hminus rfl
  refine ⟨not_mem_chars hf rfl (by decide) rfl hunder, noSecondSign_of_isChain (isChain_sign ?_ ?_)⟩
  · have hbody := not_mem_body hf (c := '-') rfl (by decide)
    refine List.isChain_append.mpr ⟨isChain_of_not_mem (.inl hbody), hexponent, ?_⟩
    rintro a ha b - ⟨rfl, -⟩
    exact hbody (List.mem_of_getLast? ha)
  · rintro c hc rfl
    have hhead : isSign '+' = false := by
      refine isSign_head?_body hf _ ?_ '+' hc
      intro c hc
      rw [head?_exponentChars hc]
      exact isSign_of_isMark hm
    cases hhead

end Numeral

end Tariff
