/-
  Tariff.Proofs.Decimal.Text — which numerals a decimal can be read from.

  A numeral without underscores is read if it is small enough where it is read: in front
  of an exponent mark, and as a whole. Digits that are cut off decide nothing but the last
  digit, so the bound is the exact one at which the number rounds beyond 96 bits.
  - `readDigits_body`: a plain numeral, by its exact value.
  - `ofText_isSome_iff`: a numeral with or without an exponent.
  - `parts_of_ofText`: nothing else is read, underscores and doubled signs apart.
-/
import Tariff.Proofs.Decimal.Point

namespace Tariff.Decimal

open Numeral

/-! ## Digits -/

theorem readDigits_digit_behind {seen : Bool} {n scale : Nat} {c : Char} (hc : isDigit c = true) (cs : List Char) :
    readDigits true seen n scale (c :: cs) =
      if scale < 28 ∧ 10 * n + digitValue c ≤ maxCoefficient then
        readDigits true true (10 * n + digitValue c) (scale + 1) cs
      else if cs.all fun d => isDigit d || d == '_' then roundAtCut n scale c else none := by
  have hmax : maxScale = 28 := rfl
  rw [readDigits]
  simp only [hc, ne_underscore hc, hmax, Bool.true_or, Bool.true_and, decide_false, Bool.false_and,
    Bool.false_eq_true, if_false, if_true, Bool.or_eq_true, decide_eq_true_eq]
  split_ifs <;> first | rfl | omega

theorem readDigits_digit_before {seen : Bool} {n scale : Nat} {c : Char} {cs : List Char} (hc : isDigit c = true) :
    readDigits false seen n scale (c :: cs) =
      if 10 * n + digitValue c ≤ maxCoefficient then readDigits false true (10 * n + digitValue c) 0 cs else none := by
  rw [readDigits]
  simp only [hc, ne_underscore hc, Bool.true_or, Bool.false_and, decide_false, Bool.or_self,
    Bool.false_eq_true, if_false, if_true]
  split_ifs <;> first | rfl | omega

/-- The fraction of a numeral: it is read as the number that all its digits write. -/
theorem readDigits_fraction {ds : List Char} (hds : ∀ d ∈ ds, isDigit d = true) {seen : Bool} {n scale : Nat}
    (hn : n ≤ maxCoefficient) (hs : scale ≤ 28) (hseen : seen = true ∨ ds ≠ []) (places : Nat) :
    ((readDigits true seen n scale ds).bind (·.shiftRight places)).isSome = true ↔
      Movable (Nat.ofDigitChars 10 ds n) (scale + ds.length) places := by
  -- a digit is taken as long as there is room for it; where there is none the rest is cut off
  induction ds generalizing seen n scale with
  | nil =>
    have hseen : seen = true := hseen.resolve_right fun h => h rfl
    rw [readDigits, if_pos hseen, ofParts_shiftRight_isSome_iff false places hn hs, le_iff_of_coefficient hn]
    rfl
  | cons c cs ih =>
    obtain ⟨hc, hcs⟩ := List.forall_mem_cons.mp hds
    have hdigit : c.toNat - '0'.toNat = digitValue c := rfl
    have hall : (cs.all fun d => isDigit d || d == '_') = true := by
      refine List.all_eq_true.mpr ?_
      intro d hd
      rw [hcs d hd, Bool.true_or]
    rw [readDigits_digit_behind hc, if_pos hall, Nat.ofDigitChars_cons, hdigit]
    split_ifs with hroom
    · rw [ih hcs hroom.2 (show scale + 1 ≤ 28 from hroom.1) (.inl rfl), List.length_cons, Nat.add_right_comm,
        Nat.add_assoc]
    · rw [roundAtCut_isSome_iff hn hs hc, Movable]
      refine and_congr_right fun hp => ?_
      exact roundedBy_le_iff hn hc hcs hp (by omega)

/-! ## Plain numerals -/

theorem readDigits_point {seen : Bool} {n scale : Nat} {cs : List Char} :
    readDigits false seen n scale ('.' :: cs) = readDigits true seen n scale cs := by
  have hdigit : isDigit '.' = false := by decide
  have hunder : ('.' == '_') = false := by decide
  rw [readDigits]
  simp [hdigit, hunder]

/-- The digits in front of the point: they are read unless there are too many. -/
theorem readDigits_whole {ds : List Char} (hds : ∀ d ∈ ds, isDigit d = true) {seen : Bool} {n : Nat}
    (hn : n ≤ maxCoefficient) (rest : List Char) :
    readDigits false seen n 0 (ds ++ rest) =
      if Nat.ofDigitChars 10 ds n ≤ maxCoefficient then
        readDigits false (seen || !ds.isEmpty) (Nat.ofDigitChars 10 ds n) 0 rest
      else none := by
  induction ds generalizing seen n with
  | nil => simp [hn]
  | cons c cs ih =>
    obtain ⟨hc, hcs⟩ := List.forall_mem_cons.mp hds
    have hdigit : c.toNat - '0'.toNat = digitValue c := rfl
    rw [List.cons_append, readDigits_digit_before hc, Nat.ofDigitChars_cons, hdigit]
    by_cases hroom : 10 * n + digitValue c ≤ maxCoefficient
    · rw [if_pos hroom, ih hcs hroom]
      simp
    · have hle := (ofDigitChars_bounds hcs (10 * n + digitValue c)).1
      have hgrow := Nat.le_mul_of_pos_right (10 * n + digitValue c) (tenTo_pos cs.length)
      rw [if_neg hroom, if_neg (by omega)]

/-- A plain numeral without a sign is read by its exact value. -/
theorem readDigits_body {p : Parts} (hp : p.Valid) (places : Nat) :
    ((readDigits false false 0 0 p.body).bind (·.shiftRight places)).isSome = true ↔
      Movable p.digits p.places places := by
  have hwhole : digitsValue p.whole = Nat.ofDigitChars 10 p.whole 0 := rfl
  rw [Parts.body, readDigits_whole hp.whole (Nat.zero_le _), ← hwhole, Bool.false_or]
  by_cases hroom : digitsValue p.whole ≤ maxCoefficient
  · rw [if_pos hroom]
    cases hf : p.fraction with
    | none =>
      have hne : (!p.whole.isEmpty) = true := by
        have := hp.someDigit
        rw [hf] at this
        simpa [List.isEmpty_iff] using this
      have hdigits : p.digits = digitsValue p.whole := by simp [Parts.digits, hf]
      have hplaces : p.places = 0 := by simp [Parts.places, hf]
      rw [fractionChars, readDigits, if_pos hne, ofParts_shiftRight_isSome_iff false places hroom (Nat.zero_le _),
        le_iff_of_coefficient hroom, hdigits, hplaces]
      rfl
    | some ds =>
      have hseen : (!p.whole.isEmpty) = true ∨ ds ≠ [] := by
        have := hp.someDigit
        rw [hf] at this
        simpa [List.isEmpty_iff, or_iff_not_imp_left] using this
      have hdigits : p.digits = Nat.ofDigitChars 10 ds (digitsValue p.whole) := by
        rw [Parts.digits, hf]
        exact Nat.ofDigitChars_append 0
      have hplaces : p.places = 0 + ds.length := by simp [Parts.places, hf]
      rw [fractionChars, readDigits_point, readDigits_fraction (hp.fraction ds hf) hroom (Nat.zero_le _) hseen,
        hdigits, hplaces]
  · have hdigits : p.digits = digitsValue p.whole * tenTo p.places + digitsValue (p.fraction.getD []) :=
      digitsValue_append ..
    have hpos := tenTo_pos places
    have hpl := tenTo_pos p.places
    rw [if_neg hroom]
    refine iff_of_false (by simp) ?_
    rintro ⟨-, hlt⟩
    have hlarge : (maxCoefficient + 1) * tenTo p.places ≤ digitsValue p.whole * tenTo p.places :=
      Nat.mul_le_mul_right _ (Nat.not_le.mp hroom)
    have hgrow := Nat.le_mul_of_pos_right p.digits hpos
    have hsucc : (maxCoefficient + 1) * tenTo p.places = maxCoefficient * tenTo p.places + tenTo p.places := by ring
    rw [Nat.add_mul, Nat.mul_assoc] at hlt
    omega

/-- A sign in front of a plain numeral changes the sign only. -/
theorem readPlain_sign {sign : Option Char} {cs : List Char} (hs : ∀ c ∈ sign, isSign c = true)
    (hc : ∀ c ∈ cs.head?, isSign c = false) (places : Nat) :
    ((readPlain (sign.toList ++ cs)).bind (·.shiftRight places)).isSome =
      ((readDigits false false 0 0 cs).bind (·.shiftRight places)).isSome := by
  cases sign with
  | none =>
    cases cs with
    | nil => rfl
    | cons c cs =>
      have hsign : isSign c = false := hc c rfl
      have hplain : readPlain (c :: cs) = readDigits false false 0 0 (c :: cs) := by
        unfold readPlain
        split <;> first | rfl | simp_all [isSign]
      rw [Option.toList_none, List.nil_append, hplain]
  | some c =>
    have hsign : c = '+' ∨ c = '-' := by simpa [isSign] using hs c rfl
    rcases hsign with rfl | rfl
    · rfl
    · have hplain : readPlain ('-' :: cs) =
          (readDigits false false 0 0 cs).map fun d => { d with negative := !d.isZero } := rfl
      rw [Option.toList_some, List.singleton_append, hplain]
      cases readDigits false false 0 0 cs with
      | none => rfl
      | some d =>
        rw [Option.map_some, Option.bind_some, Option.bind_some, Bool.eq_iff_iff, shiftRight_isSome_iff,
          shiftRight_isSome_iff]

theorem readPlain_body {p : Parts} (hp : p.Valid) (places : Nat) :
    ((readPlain (p.sign.toList ++ p.body)).bind (·.shiftRight places)).isSome = true ↔
      Movable p.digits p.places places := by
  have hhead : ∀ c ∈ p.body.head?, isSign c = false := by
    have := isSign_head?_body hp.toFormed [] (by simp)
    rwa [List.append_nil] at this
  rw [readPlain_sign hp.sign hhead, readDigits_body hp]

/-! ## The parts of what is read -/

theorem readDigits_other {point seen : Bool} {n scale : Nat} {c : Char} {cs : List Char} (hc : ¬isDigit c = true)
    (hu : c ≠ '_') : readDigits point seen n scale (c :: cs) =
      if (c = '.' && !point) = true then readDigits true seen n scale cs else none := by
  have hunder : (c == '_') = false := beq_false_of_ne hu
  rw [readDigits]
  simp [hc, hunder]

theorem digits_of_readDigits_behind {seen : Bool} {n scale : Nat} {cs : List Char} {d : Decimal} (hu : '_' ∉ cs)
    (h : readDigits true seen n scale cs = some d) : (∀ c ∈ cs, isDigit c = true) ∧ (seen = true ∨ cs ≠ []) := by
  induction cs generalizing seen n scale with
  | nil =>
    cases seen with
    | false => cases h
    | true => simp
  | cons c cs ih =>
    obtain ⟨hc, hcs⟩ := List.ne_and_not_mem_of_not_mem_cons hu
    by_cases hdigit : isDigit c = true
    · rw [readDigits_digit_behind hdigit] at h
      split_ifs at h with hroom hall
      · exact ⟨List.forall_mem_cons.mpr ⟨hdigit, (ih hcs h).1⟩, .inr (List.cons_ne_nil c cs)⟩
      · refine ⟨List.forall_mem_cons.mpr ⟨hdigit, ?_⟩, .inr (List.cons_ne_nil c cs)⟩
        intro x hx
        have hxc := List.all_eq_true.mp hall x hx
        have hne : (x == '_') = false := beq_false_of_ne fun e => hcs (e ▸ hx)
        rwa [hne, Bool.or_false] at hxc
    · rw [readDigits_other hdigit hc.symm] at h
      simp at h

theorem digits_of_readDigits_before {seen : Bool} {n : Nat} {cs : List Char} {d : Decimal} (hu : '_' ∉ cs)
    (h : readDigits false seen n 0 cs = some d) :
    ∃ whole fraction, cs = whole ++ fractionChars fraction ∧ (∀ c ∈ whole, isDigit c = true) ∧
      (∀ ds ∈ fraction, ∀ c ∈ ds, isDigit c = true) ∧ (seen = true ∨ whole ++ fraction.getD [] ≠ []) := by
  induction cs generalizing seen n with
  | nil =>
    cases seen with
    | false => cases h
    | true => exact ⟨[], none, rfl, by simp, by simp, .inl rfl⟩
  | cons c cs ih =>
    obtain ⟨hc, hcs⟩ := List.ne_and_not_mem_of_not_mem_cons hu
    by_cases hdigit : isDigit c = true
    · rw [readDigits_digit_before hdigit] at h
      split_ifs at h
      obtain ⟨whole, fraction, rfl, hw, hf, -⟩ := ih hcs h
      exact ⟨c :: whole, fraction, rfl, List.forall_mem_cons.mpr ⟨hdigit, hw⟩, hf, .inr (by simp)⟩
    · rw [readDigits_other hdigit hc.symm] at h
      split_ifs at h with hpoint
      obtain rfl : c = '.' := by simpa using hpoint
      obtain ⟨hds, hseen⟩ := digits_of_readDigits_behind hcs h
      refine ⟨[], some cs, rfl, by simp, ?_, hseen⟩
      rintro ds ⟨⟩
      exact hds

theorem parts_of_readDigits (sign : Option Char) (hs : ∀ c ∈ sign, isSign c = true) {cs : List Char} {d : Decimal}
    (hu : '_' ∉ cs) (h : readDigits false false 0 0 cs = some d) :
    ∃ whole fraction, cs = whole ++ fractionChars fraction ∧ Parts.Valid ⟨sign, whole, fraction, none⟩ := by
  obtain ⟨whole, fraction, hcs, hw, hf, hseen⟩ := digits_of_readDigits_before hu h
  exact ⟨whole, fraction, hcs, ⟨hs, hw, hf, by simp, by simp⟩, hseen.resolve_left Bool.false_ne_true, by simp⟩

/-- A plain numeral without underscores is put together from parts without an exponent. -/
theorem parts_of_readPlain {cs : List Char} {d : Decimal} (hu : '_' ∉ cs) (h : readPlain cs = some d) :
    ∃ (sign : Option Char) (whole : List Char) (fraction : Option (List Char)),
      cs = sign.toList ++ (whole ++ fractionChars fraction) ∧ Parts.Valid ⟨sign, whole, fraction, none⟩ := by
  unfold readPlain at h
  split at h
  · rename_i cs
    obtain ⟨d', hd', -⟩ := Option.map_eq_some_iff.mp h
    obtain ⟨whole, fraction, rfl, hv⟩ := parts_of_readDigits (some '-') (by simp [isSign])
      (fun hmem => hu (List.mem_cons_of_mem _ hmem)) hd'
    exact ⟨some '-', whole, fraction, rfl, hv⟩
  · rename_i cs
    obtain ⟨whole, fraction, rfl, hv⟩ := parts_of_readDigits (some '+') (by simp [isSign])
      (fun hmem => hu (List.mem_cons_of_mem _ hmem)) h
    exact ⟨some '+', whole, fraction, rfl, hv⟩
  · obtain ⟨whole, fraction, rfl, hv⟩ := parts_of_readDigits none (by simp) hu h
    exact ⟨none, whole, fraction, rfl, hv⟩

/-! ## Scientific numerals -/

theorem notMark_eq : (fun c : Char => c != 'e' && c != 'E') = fun c => !isMark c := by
  funext c
  simp [isMark, bne]

theorem span_mark {base rest : List Char} (hb : ∀ c ∈ base, isMark c = false) (hr : ∀ c ∈ rest.head?, isMark c = true) :
    (base ++ rest).takeWhile (fun c => c != 'e' && c != 'E') = base ∧
      (base ++ rest).dropWhile (fun c => c != 'e' && c != 'E') = rest := by
  have hb : ∀ c ∈ base, (!isMark c) = true := by
    intro c hc
    rw [hb c hc]
    rfl
  rw [notMark_eq, List.takeWhile_append_of_pos hb, List.dropWhile_append_of_pos hb]
  cases rest with
  | nil => simp
  | cons c rest =>
    have hc : isMark c = true := hr c rfl
    simp [hc]

theorem isMark_of_mem_base {p : Parts} (hp : p.Formed) {c : Char} (h : c ∈ p.sign.toList ++ p.body) :
    isMark c = false := by
  by_contra hm
  rw [Bool.not_eq_false] at hm
  rcases List.mem_append.mp h with hc | hc
  · have hsign := hp.sign c (Option.mem_toList.mp hc)
    rw [isSign_of_isMark hm] at hsign
    cases hsign
  · exact not_mem_body hp (isDigit_of_isMark hm) (ne_point_of_isMark hm) hc

def power32 (ds : List Char) : Option Nat := if digitsValue ds < twoTo 32 then some (digitsValue ds) else none

theorem readNatBelow_digits {ds : List Char} (h : ∀ d ∈ ds, isDigit d = true) (hne : ds ≠ []) {sign : Option Char}
    (hs : sign = none ∨ sign = some '+') : readNatBelow (twoTo 32) (sign.toList ++ ds) = power32 ds := by
  rw [readNatBelow, readNat_digits h hne hs, power32, Option.filter_some]
  simp only [decide_eq_true_eq]

def shift (base : Decimal) (sign : Option Char) (ds : List Char) : Option Decimal :=
  (power32 ds).bind fun places => if sign = some '-' then base.shiftLeft places else base.shiftRight places

theorem readScientific_chars {p : Parts} (hp : p.Valid) {mark : Char} (hm : isMark mark = true) :
    readScientific (p.chars mark) = p.exponent.bind fun e =>
      (readPlain (p.sign.toList ++ p.body)).bind fun base => shift base e.1 e.2 := by
  have hrest : ∀ c ∈ (exponentChars mark p.exponent).head?, isMark c = true := by
    intro c hc
    rw [head?_exponentChars hc]
    exact hm
  obtain ⟨htake, hdrop⟩ := span_mark (fun c => isMark_of_mem_base hp.toFormed) hrest
  unfold readScientific
  rw [Parts.chars, ← List.append_assoc, htake, hdrop]
  refine Eq.trans (b := (readPlain (p.sign.toList ++ p.body)).bind fun base =>
    p.exponent.bind fun e => shift base e.1 e.2) (congrArg _ (funext fun base => ?_)) ?_
  · cases he : p.exponent with
    | none => rfl
    | some e =>
      obtain ⟨sign, ds⟩ := e
      have hds : ∀ d ∈ ds, isDigit d = true := hp.exponentDigits (sign, ds) he
      have hne : ds ≠ [] := hp.someExponent (sign, ds) he
      have hsign : ∀ c ∈ sign, isSign c = true := hp.exponentSign (sign, ds) he
      have hunsigned : readNatBelow (twoTo 32) ds = power32 ds := readNatBelow_digits hds hne (.inl rfl)
      have hplus : readNatBelow (twoTo 32) ('+' :: ds) = power32 ds := readNatBelow_digits hds hne (.inr rfl)
      cases sign with
      | none =>
        obtain ⟨d, ds, rfl⟩ := List.exists_cons_of_ne_nil hne
        have hminus : d ≠ '-' := by
          rintro rfl
          exact absurd (hds '-' List.mem_cons_self) (by decide)
        simp only [exponentChars, Option.toList_none, List.nil_append, Option.bind_some, shift, ← hunsigned]
        split
        · rename_i heq
          cases heq
        · rename_i heq
          cases heq
          exact absurd rfl hminus
        · rename_i heq
          cases heq
          rfl
      | some c =>
        have hc : c = '+' ∨ c = '-' := by simpa [isSign] using hsign c rfl
        rcases hc with rfl | rfl
        · simp only [exponentChars, Option.toList_some, List.singleton_append, Option.bind_some, shift, ← hplus]
          rfl
        · simp only [exponentChars, Option.toList_some, List.singleton_append, Option.bind_some, shift, ← hunsigned]
          rfl
  · cases p.exponent <;> cases readPlain (p.sign.toList ++ p.body) <;> rfl

/-! ## Numerals in either form -/

theorem shiftRight_zero (d : Decimal) : (d.shiftRight 0).isSome = true := by
  rw [shiftRight_isSome_iff, Movable, ← le_iff_of_coefficient d.coefficient_le]
  exact ⟨Nat.zero_le 28, Nat.mul_le_mul d.coefficient_le (tenTo_le (Nat.zero_le d.scale))⟩

theorem readPlain_isSome_iff {p : Parts} (hp : p.Valid) :
    (readPlain (p.sign.toList ++ p.body)).isSome = true ↔ Movable p.digits p.places 0 := by
  rw [← readPlain_body hp 0]
  cases readPlain (p.sign.toList ++ p.body) with
  | none => rfl
  | some d => simp [shiftRight_zero]

theorem readPlain_eq_none {p : Parts} (hp : p.Valid) {mark : Char} (hm : isMark mark = true)
    (he : p.exponent ≠ none) : readPlain (p.chars mark) = none := by
  cases h : readPlain (p.chars mark) with
  | none => rfl
  | some d =>
    obtain ⟨sign, whole, fraction, hcs, hv⟩ := parts_of_readPlain (hp.tidy hm).noUnderscore h
    have hq : p.chars mark = Parts.chars ⟨sign, whole, fraction, none⟩ 'e' := by
      rw [hcs, Parts.chars, Parts.body, exponentChars, List.append_nil]
    have hp' := Parts.ofChars_chars hp.toFormed hm
    rw [hq, Parts.ofChars_chars hv.toFormed rfl] at hp'
    rw [← Option.some.inj hp'] at he
    exact absurd rfl he

theorem power32_eq {ds : List Char} (h : digitsValue ds ≤ 28) : power32 ds = some (digitsValue ds) := by
  have hbound : 28 < twoTo 32 := by decide
  exact if_pos (by omega)

/-- An exponent of more than 28 is too large in either direction, whether or not 32 bits hold it. -/
theorem shift_isSome_iff (d : Decimal) (sign : Option Char) (ds : List Char) :
    (shift d sign ds).isSome = true ↔
      if sign = some '-' then digitsValue ds ≤ 28 else (d.shiftRight (digitsValue ds)).isSome = true := by
  unfold shift
  by_cases hsmall : digitsValue ds ≤ 28
  · rw [power32_eq hsmall, Option.bind_some]
    split_ifs
    · exact shiftLeft_isSome_iff d _
    · rfl
  · refine iff_of_false ?_ ?_
    · intro hsome
      unfold power32 at hsome
      by_cases hbound : digitsValue ds < twoTo 32
      · rw [if_pos hbound, Option.bind_some] at hsome
        split_ifs at hsome
        · exact hsmall ((shiftLeft_isSome_iff d _).mp hsome)
        · exact hsmall ((shiftRight_isSome_iff d _).mp hsome).1
      · rw [if_neg hbound] at hsome
        cases hsome
    · rw [shiftRight_isSome_iff, Movable]
      simp [hsmall]

/-- A number is read from its text if it is small enough in front of its mark, and as a whole. -/
theorem ofText_isSome_iff {p : Parts} (hp : p.Valid) {mark : Char} (hm : isMark mark = true) {s : String}
    (hs : s.toList = p.chars mark) :
    (ofText s).isSome = true ↔ -28 ≤ p.power ∧ Movable p.digits p.places p.power.toNat := by
  rw [ofText, hs, readScientific_chars hp hm]
  cases he : p.exponent with
  | none =>
    have hchars : p.chars mark = p.sign.toList ++ p.body := by
      rw [Parts.chars, he, exponentChars, List.append_nil]
    have hpower : p.power = 0 := by rw [Parts.power, he]
    rw [hchars, hpower, Int.toNat_zero, ← readPlain_isSome_iff hp]
    cases readPlain (p.sign.toList ++ p.body) <;> simp
  | some e =>
    obtain ⟨sign, ds⟩ := e
    have hplain := readPlain_isSome_iff hp
    have hshift := readPlain_body hp (digitsValue ds)
    rw [readPlain_eq_none hp hm (by rw [he]; simp), Parts.power, he]
    simp only [Option.orElse_eq_orElse, Option.orElse_none, Option.bind_some]
    by_cases hminus : sign = some '-'
    · have hsmall : -28 ≤ -(digitsValue ds : Int) ↔ digitsValue ds ≤ 28 := by omega
      have hzero : (-(digitsValue ds : Int)).toNat = 0 := by omega
      rw [if_pos hminus, hsmall, hzero, ← hplain]
      cases readPlain (p.sign.toList ++ p.body) <;> simp [shift_isSome_iff, hminus]
    · have hsmall : -28 ≤ (digitsValue ds : Int) := by omega
      rw [if_neg hminus, Int.toNat_natCast, ← hshift]
      cases readPlain (p.sign.toList ++ p.body) <;> simp [shift_isSome_iff, hminus, hsmall]

theorem readNat_of_bind {ds : List Char} {f : Nat → Option Decimal} {d : Decimal}
    (h : (readNatBelow (twoTo 32) ds).bind f = some d) : ∃ n, readNat ds = some n := by
  obtain ⟨n, hn, -⟩ := Option.bind_eq_some_iff.mp h
  exact ⟨n, Option.filter_eq_some_iff.mp hn |>.1⟩

/-- What stands behind the mark of a scientific numeral without a second sign. -/
theorem exponent_of_readScientific {rest : List Char} {mark : Char} {base d : Decimal}
    (ht : ¬['-', '+'] <:+: mark :: rest)
    (h : (match mark :: rest with
      | [] => none
      | _ :: '-' :: ds => (readNatBelow (twoTo 32) ds).bind base.shiftLeft
      | _ :: ds => (readNatBelow (twoTo 32) ds).bind base.shiftRight) = some d) :
    ∃ sign ds, rest = Option.toList sign ++ ds ∧ (∀ c ∈ sign, isSign c = true) ∧ ds ≠ [] ∧
      ∀ c ∈ ds, isDigit c = true := by
  split at h
  · rename_i heq
    cases heq
  · rename_i ds heq
    cases heq
    obtain ⟨n, hn⟩ := readNat_of_bind h
    obtain ⟨sign, ds, rfl, hs, hne, hds⟩ := readNat_eq hn
    rcases hs with rfl | rfl
    · exact ⟨some '-', ds, rfl, by simp [isSign], hne, hds⟩
    · exact absurd ⟨[mark], ds, rfl⟩ ht
  · rename_i ds _ heq
    cases heq
    obtain ⟨n, hn⟩ := readNat_of_bind h
    obtain ⟨sign, ds, rfl, hs, hne, hds⟩ := readNat_eq hn
    refine ⟨sign, ds, rfl, ?_, hne, hds⟩
    rcases hs with rfl | rfl <;> simp [isSign]

theorem parts_of_readScientific {cs : List Char} {d : Decimal} (ht : Tidy cs) (h : readScientific cs = some d) :
    ∃ p mark, Parts.Valid p ∧ isMark mark = true ∧ cs = p.chars mark := by
  unfold readScientific at h
  obtain ⟨base, hbase, hrest⟩ := Option.bind_eq_some_iff.mp h
  have hspan := List.takeWhile_append_dropWhile (p := fun c => c != 'e' && c != 'E') (l := cs)
  have hhead := List.head?_dropWhile_not (fun c => c != 'e' && c != 'E') cs
  generalize cs.takeWhile (fun c => c != 'e' && c != 'E') = front at hbase hspan
  generalize cs.dropWhile (fun c => c != 'e' && c != 'E') = behind at hrest hhead hspan
  subst hspan
  cases behind with
  | nil => cases hrest
  | cons mark rest =>
    have hm : isMark mark = true := by
      have hnot := congrFun notMark_eq mark
      simp only [List.head?_cons] at hhead
      simpa [hnot] using hhead
    have hunder : '_' ∉ front := fun hmem => ht.noUnderscore (List.mem_append_left _ hmem)
    have hsecond : ¬['-', '+'] <:+: mark :: rest := by
      intro hpart
      exact ht.noSecondSign (hpart.trans (List.suffix_append front _).isInfix)
    obtain ⟨sign, whole, fraction, rfl, hv⟩ := parts_of_readPlain hunder hbase
    obtain ⟨esign, ds, rfl, hes, hne, hds⟩ := exponent_of_readScientific hsecond hrest
    have hformed : Parts.Formed ⟨sign, whole, fraction, some (esign, ds)⟩ := by
      refine ⟨hv.sign, hv.whole, hv.fraction, ?_, ?_⟩
      · rintro e ⟨⟩
        exact hes
      · rintro e ⟨⟩
        exact hds
    refine ⟨⟨sign, whole, fraction, some (esign, ds)⟩, mark, ⟨hformed, hv.someDigit, ?_⟩, hm, ?_⟩
    · rintro e ⟨⟩
      exact hne
    · rw [Parts.chars, Parts.body, exponentChars, List.append_assoc]

/-- A tidy text that a decimal is read from is put together from valid parts. -/
theorem parts_of_ofText {s : String} {d : Decimal} (ht : Tidy s.toList) (h : ofText s = some d) :
    ∃ p mark, Parts.Valid p ∧ isMark mark = true ∧ s.toList = p.chars mark := by
  unfold ofText at h
  cases hplain : readPlain s.toList with
  | some d' =>
    obtain ⟨sign, whole, fraction, hcs, hv⟩ := parts_of_readPlain ht.noUnderscore hplain
    refine ⟨_, 'e', hv, rfl, ?_⟩
    rw [hcs, Parts.chars, Parts.body, exponentChars, List.append_nil]
  | none =>
    rw [hplain] at h
    exact parts_of_readScientific ht h

end Tariff.Decimal
