/-
  Tariff.Proofs.Decimal.Written — decimals as they are written.

  A decimal is written with a digit in front of the point at least, and all its places
  behind it. What is written says the number exactly, and is read back as it was, up to
  the sign of a zero.
  - `written_chars`: the parts of what is written.
  - `ofText_text`: reading the text of a decimal.
  - `writes_centsText`: the text in cents, of a whole number of cents.
-/
import Tariff.Proofs.Decimal.Text

namespace Tariff

open Numeral

/-! ## The number that a text writes -/

def Numeral.value (n : Numeral) : Rat :=
  (if n.negative then -(n.digits : Rat) else n.digits) * tenTo n.exponent.toNat / tenTo (-n.exponent).toNat

/-- The text writes the number `q`, with nothing left out. -/
def Writes (s : String) (q : Rat) : Prop := ∃ n, Numeral.ofChars s.toList = some n ∧ n.value = q

namespace Decimal

/-! ## Parts -/

def padded (coefficient scale : Nat) : List Char :=
  List.replicate (scale + 1 - (digitsOf coefficient).length) '0' ++ digitsOf coefficient

theorem isDigit_of_mem_padded {coefficient scale : Nat} {c : Char} (h : c ∈ padded coefficient scale) :
    isDigit c = true := by
  rcases List.mem_append.mp h with h | h
  · obtain rfl := List.eq_of_mem_replicate h
    rfl
  · exact isDigit_of_mem_digitsOf h

theorem digitsValue_zeros (n : Nat) : digitsValue (List.replicate n '0') = 0 := by
  induction n with
  | zero => rfl
  | succ n ih =>
    rw [List.replicate_succ, digitsValue_cons, ih]
    simp [digitValue]

theorem digitsValue_padded (coefficient scale : Nat) : digitsValue (padded coefficient scale) = coefficient := by
  rw [padded, digitsValue_append, digitsValue_zeros, digitsValue_digitsOf]
  omega

theorem lt_length_padded (coefficient scale : Nat) : scale < (padded coefficient scale).length := by
  rw [padded, List.length_append, List.length_replicate]
  omega

theorem placed_eq (coefficient scale : Nat) :
    placed coefficient scale =
      ((padded coefficient scale).take ((padded coefficient scale).length - scale),
        (padded coefficient scale).drop ((padded coefficient scale).length - scale)) := rfl

def wholeDigits (coefficient scale : Nat) : List Char := (placed coefficient scale).1

def placeDigits (coefficient scale : Nat) : List Char := (placed coefficient scale).2

theorem wholeDigits_append (coefficient scale : Nat) :
    wholeDigits coefficient scale ++ placeDigits coefficient scale = padded coefficient scale := by
  rw [wholeDigits, placeDigits, placed_eq]
  exact List.take_append_drop _ _

theorem length_placeDigits (coefficient scale : Nat) : (placeDigits coefficient scale).length = scale := by
  have hlt := lt_length_padded coefficient scale
  rw [placeDigits, placed_eq, List.length_drop]
  omega

theorem wholeDigits_ne_nil (coefficient scale : Nat) : wholeDigits coefficient scale ≠ [] := by
  intro hnil
  have hlt := lt_length_padded coefficient scale
  rw [← wholeDigits_append, hnil, List.nil_append, length_placeDigits] at hlt
  omega

def parts (negative : Bool) (coefficient scale : Nat) : Parts where
  sign := if negative then some '-' else none
  whole := wholeDigits coefficient scale
  fraction := if scale = 0 then none else some (placeDigits coefficient scale)
  exponent := none

theorem getD_fraction_parts (negative : Bool) (coefficient scale : Nat) :
    (parts negative coefficient scale).fraction.getD [] = placeDigits coefficient scale := by
  by_cases h : scale = 0
  · subst h
    have hnil := List.eq_nil_of_length_eq_zero (length_placeDigits coefficient 0)
    simp [parts, hnil]
  · simp [parts, h]

theorem parts_valid (negative : Bool) (coefficient scale : Nat) : (parts negative coefficient scale).Valid := by
  have hdigits : ∀ c ∈ wholeDigits coefficient scale ++ placeDigits coefficient scale, isDigit c = true := by
    intro c hc
    rw [wholeDigits_append] at hc
    exact isDigit_of_mem_padded hc
  refine ⟨⟨?_, ?_, ?_, by simp [parts], by simp [parts]⟩, ?_, by simp [parts]⟩
  · cases negative <;> simp [parts, isSign]
  · intro c hc
    exact hdigits c (List.mem_append_left _ hc)
  · intro ds hds c hc
    have hds : ds = placeDigits coefficient scale := by
      rw [← getD_fraction_parts negative, hds, Option.getD_some]
    exact hdigits c (List.mem_append_right _ (hds ▸ hc))
  · have hne := wholeDigits_ne_nil coefficient scale
    simp [parts, hne]

theorem digits_parts (negative : Bool) (coefficient scale : Nat) :
    (parts negative coefficient scale).digits = coefficient := by
  rw [Parts.digits, getD_fraction_parts, parts, wholeDigits_append, digitsValue_padded]

theorem places_parts (negative : Bool) (coefficient scale : Nat) :
    (parts negative coefficient scale).places = scale := by
  rw [Parts.places, getD_fraction_parts, length_placeDigits]

/-- A decimal is written by putting its parts together. -/
theorem written_chars (negative : Bool) (coefficient scale : Nat) :
    (written negative coefficient scale).toList = (parts negative coefficient scale).chars 'e' := by
  have hwritten : (written negative coefficient scale).toList =
      if negative then
        '-' :: (if (placeDigits coefficient scale).isEmpty then wholeDigits coefficient scale
          else wholeDigits coefficient scale ++ '.' :: placeDigits coefficient scale)
      else if (placeDigits coefficient scale).isEmpty then wholeDigits coefficient scale
        else wholeDigits coefficient scale ++ '.' :: placeDigits coefficient scale :=
    String.toList_ofList
  have hlength := length_placeDigits coefficient scale
  rw [hwritten, Parts.chars, Parts.body, parts]
  by_cases h : scale = 0
  · subst h
    have hnil := List.eq_nil_of_length_eq_zero hlength
    cases negative <;> simp [hnil, fractionChars, exponentChars]
  · have hne : placeDigits coefficient scale ≠ [] := by
      intro hnil
      rw [hnil, List.length_nil] at hlength
      exact h hlength.symm
    cases negative <;> simp [h, hne, fractionChars, exponentChars]

/-! ## Reading what is written -/

/-- Digits behind the point are all taken if there is room for them. -/
theorem readDigits_places {ds : List Char} (hds : ∀ d ∈ ds, isDigit d = true) {seen : Bool} {n scale : Nat}
    (hseen : seen = true ∨ ds ≠ []) (hn : Nat.ofDigitChars 10 ds n ≤ maxCoefficient) (hs : scale + ds.length ≤ 28) :
    readDigits true seen n scale ds = ofParts false (Nat.ofDigitChars 10 ds n) (scale + ds.length) := by
  induction ds generalizing seen n scale with
  | nil =>
    have hseen : seen = true := hseen.resolve_right fun h => h rfl
    rw [readDigits, if_pos hseen]
    rfl
  | cons c cs ih =>
    obtain ⟨hc, hcs⟩ := List.forall_mem_cons.mp hds
    have hdigit : c.toNat - '0'.toNat = digitValue c := rfl
    rw [Nat.ofDigitChars_cons, hdigit] at hn ⊢
    rw [List.length_cons] at hs ⊢
    have hlow := (ofDigitChars_bounds hcs (10 * n + digitValue c)).1
    have hgrow := Nat.le_mul_of_pos_right (10 * n + digitValue c) (tenTo_pos cs.length)
    have hroom : scale < 28 ∧ 10 * n + digitValue c ≤ maxCoefficient := ⟨by omega, by omega⟩
    rw [readDigits_digit_behind hc, if_pos hroom, ih hcs (.inl rfl) hn (by omega), Nat.add_right_comm, Nat.add_assoc]

/-- A plain numeral that has its place is read as it is. -/
theorem readDigits_body_of_le {p : Parts} (hp : p.Valid) (hn : p.digits ≤ maxCoefficient) (hs : p.places ≤ 28) :
    readDigits false false 0 0 p.body = ofParts false p.digits p.places := by
  have hwhole : digitsValue p.whole = Nat.ofDigitChars 10 p.whole 0 := rfl
  have hroom : digitsValue p.whole ≤ maxCoefficient := by
    have hdigits : p.digits = digitsValue p.whole * tenTo p.places + digitsValue (p.fraction.getD []) :=
      digitsValue_append ..
    have hgrow := Nat.le_mul_of_pos_right (digitsValue p.whole) (tenTo_pos p.places)
    omega
  rw [Parts.body, readDigits_whole hp.whole (Nat.zero_le _), ← hwhole, if_pos hroom, Bool.false_or]
  have hsome := hp.someDigit
  cases hf : p.fraction with
  | none =>
    rw [hf] at hsome
    have hne : (!p.whole.isEmpty) = true := by simpa [List.isEmpty_iff] using hsome
    have hdigits : p.digits = digitsValue p.whole := by simp [Parts.digits, hf]
    have hplaces : p.places = 0 := by simp [Parts.places, hf]
    rw [fractionChars, readDigits, if_pos hne, hdigits, hplaces]
  | some ds =>
    rw [hf] at hsome
    have hseen : (!p.whole.isEmpty) = true ∨ ds ≠ [] := by
      simpa [List.isEmpty_iff, or_iff_not_imp_left] using hsome
    have hdigits : p.digits = Nat.ofDigitChars 10 ds (digitsValue p.whole) := by
      rw [Parts.digits, hf]
      exact Nat.ofDigitChars_append 0
    have hplaces : p.places = ds.length := by simp [Parts.places, hf]
    rw [hdigits] at hn ⊢
    rw [hplaces] at hs ⊢
    rw [fractionChars, readDigits_point, readDigits_places (hp.fraction ds hf) hseen hn (by omega), Nat.zero_add]

theorem readPlain_of_unsigned {cs : List Char} (h : ∀ c ∈ cs.head?, isSign c = false) :
    readPlain cs = readDigits false false 0 0 cs := by
  unfold readPlain
  split
  · exact absurd (h '-' rfl) (by decide)
  · exact absurd (h '+' rfl) (by decide)
  · rfl

/-- The decimal without the sign of a zero. -/
def unsignZero (d : Decimal) : Decimal := { d with negative := d.negative && !d.isZero }

@[simp] theorem value_unsignZero (d : Decimal) : d.unsignZero.value = d.value := by
  by_cases h : d.isZero = true
  · rw [value_of_isZero h, value_of_isZero (d := d.unsignZero) h]
  · simp [unsignZero, h]

/-- A decimal is read back from its text, but for the sign of a zero. -/
theorem ofText_text (d : Decimal) : ofText d.text = some d.unsignZero := by
  have hp := parts_valid d.negative d.coefficient d.scale
  have hmax : maxCoefficient = twoTo 96 - 1 := rfl
  have hlt := d.coefficient_lt
  have hbody : readDigits false false 0 0 (parts d.negative d.coefficient d.scale).body =
      some ⟨false, d.coefficient, d.scale, d.coefficient_lt, d.scale_le⟩ := by
    have hread := readDigits_body_of_le hp (by rw [digits_parts]; omega) (by rw [places_parts]; exact d.scale_le)
    rw [hread, digits_parts, places_parts, ofParts, dif_pos ⟨d.coefficient_lt, d.scale_le⟩]
  have hhead : ∀ c ∈ (parts d.negative d.coefficient d.scale).body.head?, isSign c = false := by
    have := isSign_head?_body hp.toFormed [] (by simp)
    rwa [List.append_nil] at this
  have hplain : readPlain d.text.toList = some d.unsignZero := by
    have hexponent : exponentChars 'e' (parts d.negative d.coefficient d.scale).exponent = [] := rfl
    rw [text, written_chars, Parts.chars, hexponent, List.append_nil]
    cases hn : d.negative with
    | false =>
      rw [hn] at hbody hhead
      have hsign : (parts false d.coefficient d.scale).sign.toList = [] := rfl
      rw [hsign, List.nil_append, readPlain_of_unsigned hhead, hbody]
      simp [unsignZero, hn]
    | true =>
      rw [hn] at hbody
      have hsign : (parts true d.coefficient d.scale).sign.toList = ['-'] := rfl
      rw [hsign, List.singleton_append, readPlain, hbody]
      simp [unsignZero, hn, isZero]
  rw [ofText, hplain]
  rfl

theorem unsignZero_eq_self {d : Decimal} (h : ofText d.text = some d) : d.unsignZero = d := by
  rw [ofText_text] at h
  exact Option.some.inj h

/-! ## Texts in cents -/

theorem writes_written (negative : Bool) (coefficient scale : Nat) :
    Writes (written negative coefficient scale) ((if negative then -(coefficient : Rat) else coefficient) / tenTo scale) := by
  have hp := parts_valid negative coefficient scale
  refine ⟨(parts negative coefficient scale).numeral, ?_, ?_⟩
  · rw [written_chars]
    exact ofChars_eq_some_iff.mpr ⟨_, Parts.ofChars_chars hp.toFormed rfl, hp, rfl⟩
  · have hpower : (parts negative coefficient scale).power = 0 := rfl
    have hone : tenTo 0 = 1 := rfl
    rw [Parts.numeral_eq, digits_parts, places_parts, hpower, Numeral.value]
    cases negative <;> simp [parts, hone]

def InCents (d : Decimal) : Prop := ∃ n : Int, d.value = n / 100

theorem tenTo_two : tenTo 2 = 100 := rfl

/-- A decimal with two places at most is a whole number of cents. -/
theorem inCents_of_scale_le {d : Decimal} (h : d.scale ≤ 2) : d.InCents := by
  refine ⟨d.rescaled 2, ?_⟩
  have hcast := rescaled_cast d h
  rw [tenTo_two] at hcast
  rw [hcast]
  push_cast
  ring

/-- More than two places of a whole number of cents are zeros. -/
theorem tenTo_dvd_of_inCents {d : Decimal} (h : d.InCents) (hs : 2 ≤ d.scale) : tenTo (d.scale - 2) ∣ d.coefficient := by
  obtain ⟨n, hn⟩ := h
  -- the coefficient is the number of cents in units of the last place
  have hsplit : tenTo d.scale = tenTo (d.scale - 2) * 100 := by
    rw [← tenTo_two, ← tenTo_add, Nat.sub_add_cancel hs]
  have hpos := tenTo_cast_pos (d.scale - 2)
  rw [value_eq, hsplit] at hn
  push_cast at hn
  have hsigned : d.signed = n * (tenTo (d.scale - 2) : Int) := by
    have hcast : (d.signed : Rat) = n * tenTo (d.scale - 2) := by
      field_simp at hn
      linarith
    exact_mod_cast hcast
  have hdvd : (tenTo (d.scale - 2) : Int) ∣ d.signed := ⟨n, by rw [hsigned, mul_comm]⟩
  have habs : d.signed.natAbs = d.coefficient := by
    unfold signed
    split <;> simp
  rw [← habs]
  exact Int.natCast_dvd.mp hdvd

/-- The text in cents of a whole number of cents leaves nothing out. -/
theorem writes_centsText {d : Decimal} (h : d.InCents) : Writes d.centsText d.value := by
  have hplaces := tenTo_cast_pos d.scale
  rw [value_eq, signed, centsText]
  by_cases hs : d.scale ≤ 2
  · rw [if_pos hs]
    have hsplit : (tenTo 2 : Rat) = tenTo (2 - d.scale) * tenTo d.scale := by
      rw [← Nat.cast_mul, ← tenTo_add, Nat.sub_add_cancel hs]
    have hfill := tenTo_cast_pos (2 - d.scale)
    convert writes_written d.negative (d.coefficient * tenTo (2 - d.scale)) 2 using 1
    rw [hsplit]
    cases d.negative <;> simp <;> field_simp
  · rw [if_neg hs]
    obtain ⟨k, hk⟩ := tenTo_dvd_of_inCents h (by omega)
    have hsplit : (tenTo d.scale : Rat) = tenTo (d.scale - 2) * tenTo 2 := by
      rw [← Nat.cast_mul, ← tenTo_add, Nat.sub_add_cancel (by omega)]
    have hcut := tenTo_cast_pos (d.scale - 2)
    convert writes_written d.negative (d.coefficient / tenTo (d.scale - 2)) 2 using 1
    rw [hsplit, hk, Nat.mul_div_cancel_left k (tenTo_pos _)]
    cases d.negative <;> simp <;> field_simp

end Decimal

end Tariff
