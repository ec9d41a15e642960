/-
  Tariff.Proofs.Text.Casing — the lower case of a part of a text.

  Only a sigma looks around itself. `lowerAmid` is the lower case of a part with the text
  in front of it and behind it, so the lower case of a text is made of those of its parts
  (`lowerAmid_append`). A sigma is open if the text around the part can still decide what
  becomes of it.
  - `lowerAmid_of_closed`: a part without open sigma has one lower case wherever it stands.
  - `not_infix_of_open_end` / `not_infix_of_open_start`: one with an open sigma has another
    behind or in front of a letter.
  - `closed_iff`: both.
-/
import Mathlib.Data.List.Infix
import Mathlib.Data.List.Count
import Tariff.Text

namespace Tariff.Text

/-! ## What stands around a part -/

theorem startsCased_cons (c : Char) (cs : List Char) :
    startsCased (c :: cs) = if isCaseIgnorable c then startsCased cs else isCased c := by
  unfold startsCased
  cases h : isCaseIgnorable c <;> simp [h]

theorem startsCased_append (xs ys : List Char) :
    startsCased (xs ++ ys) = if xs.all isCaseIgnorable then startsCased ys else startsCased xs := by
  induction xs with
  | nil => rfl
  | cons x xs ih =>
    rw [List.cons_append, startsCased_cons, startsCased_cons, ih, List.all_cons]
    cases isCaseIgnorable x <;> rfl

/-- Nothing but what a sigma looks past. -/
theorem startsCased_of_all {cs : List Char} (h : cs.all isCaseIgnorable = true) : startsCased cs = false := by
  have := startsCased_append cs []
  rw [List.append_nil, if_pos h] at this
  exact this

def sigma (front back : List Char) : Char :=
  if startsCased front.reverse && !startsCased back then 'ς' else 'σ'

theorem sigma_eq_final_iff {front back : List Char} :
    sigma front back = 'ς' ↔ startsCased front.reverse = true ∧ startsCased back = false := by
  unfold sigma
  cases startsCased front.reverse <;> cases startsCased back <;> decide

theorem sigma_eq_inner_iff {front back : List Char} :
    sigma front back = 'σ' ↔ startsCased front.reverse = false ∨ startsCased back = true := by
  unfold sigma
  cases startsCased front.reverse <;> cases startsCased back <;> decide

/-- The lower case of a part of a text, with `front` before it and `back` behind it. -/
def lowerAmid (front back : List Char) : List Char → List Char
  | [] => []
  | c :: cs => (if c = 'Σ' then [sigma front (cs ++ back)] else lower c) ++ lowerAmid (front ++ [c]) back cs

theorem lowerFrom_eq (front cs : List Char) : lowerFrom (startsCased front.reverse) cs = lowerAmid front [] cs := by
  induction cs generalizing front with
  | nil => rfl
  | cons c cs ih =>
    have hfront := ih (front ++ [c])
    rw [List.reverse_append, List.reverse_singleton, List.singleton_append, startsCased_cons] at hfront
    rw [lowerFrom, lowerAmid, hfront, List.append_nil]
    congr 1
    unfold sigma
    split_ifs <;> rfl

theorem lowerAmid_append (front back xs ys : List Char) :
    lowerAmid front back (xs ++ ys) = lowerAmid front (ys ++ back) xs ++ lowerAmid (front ++ xs) back ys := by
  induction xs generalizing front with
  | nil => simp [lowerAmid]
  | cons x xs ih =>
    rw [List.cons_append, lowerAmid, lowerAmid, ih, List.append_assoc, List.append_assoc, List.append_assoc,
      List.singleton_append]

def lowerChars (cs : List Char) : List Char := lowerAmid [] [] cs

theorem lowercase_eq (s : String) : lowercase s = lowerChars s.toList := lowerFrom_eq [] s.toList

theorem lowerChars_append (front cs back : List Char) :
    lowerChars (front ++ cs ++ back) =
      lowerAmid [] (cs ++ back) front ++ lowerAmid front back cs ++ lowerAmid (front ++ cs) [] back := by
  rw [lowerChars, lowerAmid_append, lowerAmid_append, List.append_nil, List.nil_append, List.nil_append]

/-! ## Open sigmas -/

def SigmaAt (cs p q : List Char) : Prop := cs = p ++ 'Σ' :: q

/-- What the sigma between `p` and `q` becomes depends on the text around them: there is a letter in front of it and
    nothing behind it but what it looks past, or only such in front of it and no letter behind it. -/
def Open (p q : List Char) : Prop :=
  (startsCased p.reverse = true ∧ q.all isCaseIgnorable = true) ∨
    (p.all isCaseIgnorable = true ∧ startsCased q = false)

instance (p q : List Char) : Decidable (Open p q) :=
  inferInstanceAs (Decidable ((startsCased p.reverse = true ∧ q.all isCaseIgnorable = true) ∨
    (p.all isCaseIgnorable = true ∧ startsCased q = false)))

def OpenSigma (cs : List Char) : Prop := ∃ p q, SigmaAt cs p q ∧ Open p q

instance (cs p q : List Char) : Decidable (SigmaAt cs p q) := inferInstanceAs (Decidable (cs = p ++ 'Σ' :: q))

theorem openSigma_iff (cs : List Char) :
    (∃ i < cs.length, SigmaAt cs (cs.take i) (cs.drop (i + 1)) ∧ Open (cs.take i) (cs.drop (i + 1))) ↔ OpenSigma cs := by
  constructor
  · rintro ⟨i, -, h⟩
    exact ⟨_, _, h⟩
  · rintro ⟨p, q, rfl, h⟩
    have hp : (p ++ 'Σ' :: q).take p.length = p := List.take_left
    have hq : (p ++ 'Σ' :: q).drop (p.length + 1) = q := by simp
    exact ⟨p.length, by simp, by rw [hp, hq]; exact ⟨rfl, h⟩⟩

instance : DecidablePred OpenSigma := fun cs => decidable_of_iff _ (openSigma_iff cs)

theorem lowerAmid_congr {front back front' back' cs : List Char}
    (h : ∀ p q, SigmaAt cs p q → sigma (front ++ p) (q ++ back) = sigma (front' ++ p) (q ++ back')) :
    lowerAmid front back cs = lowerAmid front' back' cs := by
  induction cs generalizing front front' with
  | nil => rfl
  | cons c cs ih =>
    have hrest : lowerAmid (front ++ [c]) back cs = lowerAmid (front' ++ [c]) back' cs := by
      refine ih fun p q hpq => ?_
      have := h (c :: p) q (by rw [SigmaAt, hpq, List.cons_append])
      simpa using this
    rw [lowerAmid, lowerAmid, hrest]
    split_ifs with hc
    · have := h [] cs (by rw [SigmaAt, hc, List.nil_append])
      rw [List.append_nil, List.append_nil] at this
      rw [this]
    · rfl

/-- A sigma that is not open has its form wherever the text stands. -/
theorem sigma_of_closed {cs p q : List Char} (hclosed : ¬OpenSigma cs) (h : SigmaAt cs p q) (front back : List Char) :
    sigma (front ++ p) (q ++ back) = sigma p q := by
  unfold sigma
  rw [List.reverse_append, startsCased_append, startsCased_append, List.all_reverse]
  by_cases hp : p.all isCaseIgnorable = true
  · have hpr : startsCased p.reverse = false := startsCased_of_all (by rwa [List.all_reverse])
    have hq : startsCased q = true := by
      by_contra hq
      exact hclosed ⟨p, q, h, .inr ⟨hp, by simpa using hq⟩⟩
    have hqall : ¬q.all isCaseIgnorable = true := by
      intro hall
      rw [startsCased_of_all hall] at hq
      cases hq
    rw [if_neg hqall, hq, hpr]
    simp
  · rw [if_neg hp]
    by_cases hq : q.all isCaseIgnorable = true
    · have hpr : startsCased p.reverse = false := by
        by_contra hpr
        exact hclosed ⟨p, q, h, .inl ⟨by simpa using hpr, hq⟩⟩
      rw [hpr]
      simp
    · rw [if_neg hq]

theorem lowerAmid_of_closed {cs : List Char} (h : ¬OpenSigma cs) (front back : List Char) :
    lowerAmid front back cs = lowerChars cs := by
  refine lowerAmid_congr fun p q hpq => ?_
  rw [sigma_of_closed h hpq, List.nil_append, List.append_nil]

theorem infix_of_closed {cs text : List Char} (h : ¬OpenSigma cs) (hin : cs <:+: text) :
    lowerChars cs <:+: lowerChars text := by
  obtain ⟨front, back, rfl⟩ := hin
  rw [lowerChars_append, lowerAmid_of_closed h]
  exact ⟨_, _, rfl⟩

/-! ## Counting forms -/

section Count

variable {front back front' back' cs : List Char} {x : Char}

theorem count_lowerAmid_le
    (h : ∀ p q, SigmaAt cs p q → sigma (front' ++ p) (q ++ back') = x → sigma (front ++ p) (q ++ back) = x) :
    (lowerAmid front' back' cs).count x ≤ (lowerAmid front back cs).count x := by
  induction cs generalizing front front' with
  | nil => exact Nat.le_refl _
  | cons c cs ih =>
    have hrest : (lowerAmid (front' ++ [c]) back' cs).count x ≤ (lowerAmid (front ++ [c]) back cs).count x := by
      refine ih fun p q hpq hx => ?_
      have := h (c :: p) q (by rw [SigmaAt, hpq, List.cons_append])
      simpa using this (by simpa using hx)
    rw [lowerAmid, lowerAmid, List.count_append, List.count_append]
    refine Nat.add_le_add ?_ hrest
    split_ifs with hc
    · have := h [] cs (by rw [SigmaAt, hc, List.nil_append])
      rw [List.append_nil, List.append_nil] at this
      rw [List.count_singleton, List.count_singleton]
      simp only [beq_iff_eq]
      split_ifs with h' hx <;> first | omega | exact absurd (this h') hx
    · exact Nat.le_refl _

/-- One form less at one place, and no more at any other. -/
theorem count_lowerAmid_lt
    (h : ∀ p q, SigmaAt cs p q → sigma (front' ++ p) (q ++ back') = x → sigma (front ++ p) (q ++ back) = x)
    {p q : List Char} (hpq : SigmaAt cs p q) (hx : sigma (front ++ p) (q ++ back) = x)
    (hx' : sigma (front' ++ p) (q ++ back') ≠ x) :
    (lowerAmid front' back' cs).count x < (lowerAmid front back cs).count x := by
  have hbefore : (lowerAmid front' ('Σ' :: q ++ back') p).count x ≤ (lowerAmid front ('Σ' :: q ++ back) p).count x := by
    refine count_lowerAmid_le fun p₁ q₁ hp₁ hx₁ => ?_
    have := h p₁ (q₁ ++ 'Σ' :: q) (by rw [SigmaAt, hpq, hp₁]; simp)
    simpa using this (by simpa using hx₁)
  have hbehind : (lowerAmid (front' ++ p ++ ['Σ']) back' q).count x ≤
      (lowerAmid (front ++ p ++ ['Σ']) back q).count x := by
    refine count_lowerAmid_le fun p₁ q₁ hq₁ hx₁ => ?_
    have := h (p ++ 'Σ' :: p₁) q₁ (by rw [SigmaAt, hpq, hq₁]; simp)
    simpa using this (by simpa using hx₁)
  rw [hpq, lowerAmid_append, lowerAmid_append, lowerAmid, lowerAmid, if_pos rfl, if_pos rfl, List.count_append,
    List.count_append, List.count_append, List.count_append, hx, List.count_singleton_self,
    List.count_singleton, if_neg (by simpa using hx')]
  omega

end Count

/-! ## Texts around an open sigma -/

theorem startsCased_letter : startsCased ['a'] = true := by decide +kernel

theorem lowerAmid_letter (front back : List Char) : lowerAmid front back ['a'] = ['a'] := by
  rw [lowerAmid, if_neg (by decide), lowerAmid, List.append_nil]
  decide

theorem startsCased_of_append_letter {cs : List Char} (h : startsCased (cs ++ ['a']) = false) :
    startsCased cs = false := by
  rw [startsCased_append, startsCased_letter] at h
  split_ifs at h
  exact h

theorem startsCased_append_letter {cs : List Char} (h : cs.all isCaseIgnorable = true) :
    startsCased (cs ++ ['a']) = true := by
  rw [startsCased_append, if_pos h]
  exact startsCased_letter

/-- A letter behind makes a sigma that ended a word one inside it. -/
theorem not_infix_of_open_end {cs p q : List Char} (hpq : SigmaAt cs p q) (hp : startsCased p.reverse = true)
    (hq : q.all isCaseIgnorable = true) : ¬lowerChars cs <:+: lowerChars (cs ++ ['a']) := by
  have hlt : (lowerAmid [] ['a'] cs).count 'ς' < (lowerAmid [] [] cs).count 'ς' := by
    refine count_lowerAmid_lt ?_ hpq ?_ ?_
    · intro p₁ q₁ _ h
      rw [sigma_eq_final_iff] at h ⊢
      exact ⟨h.1, by rw [List.append_nil]; exact startsCased_of_append_letter h.2⟩
    · rw [sigma_eq_final_iff, List.append_nil]
      exact ⟨hp, startsCased_of_all hq⟩
    · rw [Ne, sigma_eq_final_iff, startsCased_append_letter hq]
      simp
  intro hin
  have hparts : lowerChars (cs ++ ['a']) = lowerAmid [] ['a'] cs ++ ['a'] := by
    rw [lowerChars, lowerAmid_append, lowerAmid_letter, List.append_nil]
  have hle := hin.count_le 'ς'
  rw [hparts, List.count_append] at hle
  exact absurd hle (Nat.not_le.mpr hlt)

/-- A letter in front makes a sigma that was no letter's neighbour the end of a word. -/
theorem not_infix_of_open_start {cs p q : List Char} (hpq : SigmaAt cs p q) (hp : p.all isCaseIgnorable = true)
    (hq : startsCased q = false) : ¬lowerChars cs <:+: lowerChars ('a' :: cs) := by
  have hlt : (lowerAmid ['a'] [] cs).count 'σ' < (lowerAmid [] [] cs).count 'σ' := by
    refine count_lowerAmid_lt ?_ hpq ?_ ?_
    · intro p₁ q₁ _ h
      rw [sigma_eq_inner_iff] at h ⊢
      refine h.imp_left fun hfront => ?_
      rw [List.reverse_append] at hfront
      exact startsCased_of_append_letter hfront
    · rw [sigma_eq_inner_iff]
      exact .inl (startsCased_of_all (by rwa [List.nil_append, List.all_reverse]))
    · have hfront : startsCased (['a'] ++ p).reverse = true := by
        rw [List.reverse_append]
        exact startsCased_append_letter (by rwa [List.all_reverse])
      rw [Ne, sigma_eq_inner_iff, hfront, List.append_nil, hq]
      simp
  intro hin
  have hparts : lowerChars ('a' :: cs) = ['a'] ++ lowerAmid ['a'] [] cs := by
    rw [← List.singleton_append, lowerChars, lowerAmid_append, lowerAmid_letter, List.nil_append]
  have hle := hin.count_le 'σ'
  rw [hparts, List.count_append, show ['a'].count 'σ' = 0 by decide, Nat.zero_add] at hle
  exact absurd hle (Nat.not_le.mpr hlt)

/-- The lower case of a text stands in that of every text it stands in, if and only if the text has no open sigma. -/
theorem closed_iff {cs : List Char} :
    ¬OpenSigma cs ↔ ∀ text, cs <:+: text → lowerChars cs <:+: lowerChars text := by
  constructor
  · intro h text hin
    exact infix_of_closed h hin
  · rintro h ⟨p, q, hpq, ⟨hp, hq⟩ | ⟨hp, hq⟩⟩
    · exact not_infix_of_open_end hpq hp hq (h _ (List.infix_append [] cs ['a']))
    · exact not_infix_of_open_start hpq hp hq (h _ (List.suffix_cons 'a' cs).isInfix)

end Tariff.Text
