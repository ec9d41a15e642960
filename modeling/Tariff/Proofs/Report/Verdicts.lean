/-
  Tariff.Proofs.Report.Verdicts — what becomes of each cost that is added.

  A merge judges its costs one by one: `verdicts` has an error for each that is refused.
  The report then holds those without one, and the refusals are the others, in order.
  - `merge_orders` / `merge_refused`: a merge by its verdicts.
  - `verdicts_taken`: costs that a merge refuses may be left out of it beforehand.
  - `accepts_iff` / `judges_iff`: when judging twice comes to the same as judging once.
-/
import Mathlib.Data.List.Forall2
import Tariff.Proofs.Report.Books

namespace Tariff.Report

abbrev Verdict := Option ChargeError

/-- Why each cost is refused, if it is, when they are added one after the other. -/
def verdicts (r : Report) : List OrderCost → List Verdict
  | [] => []
  | c :: rest =>
    match (add c).run r with
    | .ok () r' => none :: r'.verdicts rest
    | .error e r' => some e :: r'.verdicts rest

/-! ## Sorting by verdict -/

section
variable {α : Type}

def taken (vs : List Verdict) (xs : List α) : List α := ((vs.zip xs).filter (·.1.isNone)).map (·.2)

def turnedAway (vs : List Verdict) (xs : List α) : List α := ((vs.zip xs).filter (·.1.isSome)).map (·.2)

@[simp] theorem taken_nil (vs : List Verdict) : taken vs ([] : List α) = [] := by simp [taken]
@[simp] theorem nil_taken (xs : List α) : taken [] xs = [] := rfl
@[simp] theorem taken_none (vs : List Verdict) (x : α) (xs : List α) :
    taken (none :: vs) (x :: xs) = x :: taken vs xs := rfl
@[simp] theorem taken_some (e : ChargeError) (vs : List Verdict) (x : α) (xs : List α) :
    taken (some e :: vs) (x :: xs) = taken vs xs := rfl

theorem taken_append {vs : List Verdict} {xs : List α} (h : vs.length = xs.length) (ws : List Verdict) (ys : List α) :
    taken (vs ++ ws) (xs ++ ys) = taken vs xs ++ taken ws ys := by
  simp [taken, List.zip_append h]

theorem taken_sublist (vs : List Verdict) (xs : List α) : (taken vs xs).Sublist xs := by
  induction xs generalizing vs with
  | nil => simp
  | cons x xs ih =>
    rcases vs with _ | ⟨_ | e, vs⟩
    · exact List.nil_sublist _
    · exact (ih vs).cons_cons x
    · exact (ih vs).cons x

theorem taken_append_turnedAway {vs : List Verdict} {xs : List α} (h : vs.length = xs.length) :
    (taken vs xs ++ turnedAway vs xs).Perm xs := by
  have hp := List.filter_append_perm (fun p : Verdict × α => p.1.isNone) (vs.zip xs)
  have hs : (fun p : Verdict × α => !p.1.isNone) = (·.1.isSome) := by
    funext p
    cases p.1 <;> rfl
  rw [hs] at hp
  have := hp.map (·.2)
  rwa [List.map_append, List.map_snd_zip h.ge] at this

/-- Nothing is said against any. -/
theorem taken_of_all_none {vs : List Verdict} {xs : List α} (h : vs.length = xs.length) (hv : ∀ v ∈ vs, v = none) :
    taken vs xs = xs := by
  induction xs generalizing vs with
  | nil => simp
  | cons x xs ih =>
    rcases vs with _ | ⟨v, vs⟩
    · simp at h
    · rw [hv v List.mem_cons_self, taken_none,
        ih (by simpa using h) fun w hw => hv w (List.mem_cons_of_mem v hw)]

end

def refusals (vs : List Verdict) (cs : List OrderCost) : List Rejected :=
  (vs.zip cs).filterMap fun (v, c) => v.map (⟨c.orderId, ·⟩)

@[simp] theorem refusals_nil (vs : List Verdict) : refusals vs [] = [] := by simp [refusals]
@[simp] theorem nil_refusals (cs : List OrderCost) : refusals [] cs = [] := rfl
@[simp] theorem refusals_none (vs : List Verdict) (c : OrderCost) (cs : List OrderCost) :
    refusals (none :: vs) (c :: cs) = refusals vs cs := rfl
@[simp] theorem refusals_some (e : ChargeError) (vs : List Verdict) (c : OrderCost) (cs : List OrderCost) :
    refusals (some e :: vs) (c :: cs) = ⟨c.orderId, e⟩ :: refusals vs cs := rfl

theorem refusals_of_all_none {vs : List Verdict} (h : ∀ v ∈ vs, v = none) (cs : List OrderCost) :
    refusals vs cs = [] :=
  List.filterMap_eq_nil_iff.mpr fun (v, c) hp => by simp only [h v (List.of_mem_zip hp).1, Option.map_none]

theorem refusals_append {vs : List Verdict} {cs : List OrderCost} (h : vs.length = cs.length) (ws : List Verdict)
    (ds : List OrderCost) : refusals (vs ++ ws) (cs ++ ds) = refusals vs cs ++ refusals ws ds := by
  simp [refusals, List.zip_append h]

/-- The orders that are refused. -/
theorem map_orderId_refusals (vs : List Verdict) (cs : List OrderCost) :
    (refusals vs cs).map (·.orderId) = (turnedAway vs cs).map (·.orderId) := by
  unfold refusals turnedAway
  induction vs.zip cs with
  | nil => rfl
  | cons p ps ih => rcases p with ⟨_ | e, c⟩ <;> simpa using ih

theorem orderId_of_mem_refusals {vs : List Verdict} {cs : List OrderCost} {x : Rejected} (h : x ∈ refusals vs cs) :
    x.orderId ∈ cs.map (·.orderId) := by
  obtain ⟨⟨v, c⟩, hp, he⟩ := List.mem_filterMap.mp h
  obtain ⟨e, -, rfl⟩ := Option.map_eq_some_iff.mp he
  exact List.mem_map_of_mem (List.of_mem_zip hp).2

/-- Of the costs of distinct orders, those that are taken tell which verdicts there are. -/
theorem isSome_of_taken {vs ws : List Verdict} {cs : List OrderCost} (hv : vs.length = cs.length)
    (hw : ws.length = cs.length) (hn : (cs.map (·.orderId)).Nodup) (ht : taken vs cs = taken ws cs) :
    vs.map (·.isSome) = ws.map (·.isSome) := by
  induction cs generalizing vs ws with
  | nil => rw [List.length_eq_zero_iff.mp hv, List.length_eq_zero_iff.mp hw]
  | cons c cs ih =>
    obtain ⟨v, vs, rfl⟩ := List.exists_cons_of_length_eq_add_one hv
    obtain ⟨w, ws, rfl⟩ := List.exists_cons_of_length_eq_add_one hw
    obtain ⟨hc, hn⟩ := List.nodup_cons.mp hn
    have hv' : vs.length = cs.length := by simpa using hv
    have hw' : ws.length = cs.length := by simpa using hw
    have notTaken (us : List Verdict) : c ∉ taken us cs := by
      intro h
      exact hc (List.mem_map_of_mem ((taken_sublist us cs).subset h))
    rcases v with _ | e <;> rcases w with _ | e'
    · have := ih hv' hw' hn (by simpa using ht)
      simpa using this
    · rw [taken_none, taken_some] at ht
      exact (notTaken ws (ht ▸ List.mem_cons_self)).elim
    · rw [taken_none, taken_some] at ht
      exact (notTaken vs (ht ▸ List.mem_cons_self)).elim
    · have := ih hv' hw' hn ht
      simpa using this

/-- Their refusals tell the errors, too. -/
theorem verdicts_ext {vs ws : List Verdict} {cs : List OrderCost} (hv : vs.length = cs.length)
    (hw : ws.length = cs.length) (hn : (cs.map (·.orderId)).Nodup) (hs : vs.map (·.isSome) = ws.map (·.isSome))
    (hr : (refusals vs cs).Perm (refusals ws cs)) : vs = ws := by
  induction cs generalizing vs ws with
  | nil => rw [List.length_eq_zero_iff.mp hv, List.length_eq_zero_iff.mp hw]
  | cons c cs ih =>
    obtain ⟨v, vs, rfl⟩ := List.exists_cons_of_length_eq_add_one hv
    obtain ⟨w, ws, rfl⟩ := List.exists_cons_of_length_eq_add_one hw
    obtain ⟨hc, hn⟩ := List.nodup_cons.mp hn
    have hv' : vs.length = cs.length := by simpa using hv
    have hw' : ws.length = cs.length := by simpa using hw
    obtain ⟨hvw, hrest⟩ := List.cons_eq_cons.mp hs
    rcases v with _ | e <;> rcases w with _ | e'
    · rw [ih hv' hw' hn hrest hr]
    · cases hvw
    · cases hvw
    · rw [refusals_some, refusals_some] at hr
      have he : (⟨c.orderId, e⟩ : Rejected) = ⟨c.orderId, e'⟩ := by
        rcases List.mem_cons.mp (hr.subset List.mem_cons_self) with h | h
        · exact h
        · exact (hc (orderId_of_mem_refusals h)).elim
      cases he
      rw [ih hv' hw' hn hrest ((List.perm_cons _).mp hr)]

/-! ## Merges by their verdicts -/

@[simp] theorem length_verdicts (r : Report) (cs : List OrderCost) : (r.verdicts cs).length = cs.length := by
  induction cs generalizing r with
  | nil => rfl
  | cons c cs ih =>
    unfold verdicts
    cases (add c).run r <;> simp [ih]

theorem verdicts_ok {r r' : Report} {c : OrderCost} (h : (add c).run r = .ok () r') (cs : List OrderCost) :
    r.verdicts (c :: cs) = none :: r'.verdicts cs := by
  simp only [verdicts, h]

theorem verdicts_error {r r' : Report} {c : OrderCost} {e : ChargeError} (h : (add c).run r = .error e r')
    (cs : List OrderCost) : r.verdicts (c :: cs) = some e :: r.verdicts cs := by
  simp only [verdicts, h, add_error h]

theorem merge_orders (r : Report) (cs : List OrderCost) :
    (r.merge cs).1.orders = r.orders ++ taken (r.verdicts cs) cs := by
  induction cs generalizing r with
  | nil => simp
  | cons c cs ih =>
    rw [merge_cons]
    cases h : (add c).run r with
    | ok _ r' =>
      obtain ⟨t, total, -, rfl⟩ := add_ok h
      rw [verdicts_ok h, taken_none]
      show (merge _ cs).1.orders = _
      rw [ih, List.append_assoc]
      rfl
    | error e r' =>
      rw [verdicts_error h, taken_some]
      exact ih r

theorem merge_refused (r : Report) (cs : List OrderCost) : (r.merge cs).2 = refusals (r.verdicts cs) cs := by
  induction cs generalizing r with
  | nil => simp
  | cons c cs ih =>
    rw [merge_cons]
    cases h : (add c).run r with
    | ok _ r' =>
      rw [verdicts_ok h, refusals_none]
      exact ih r'
    | error e r' =>
      rw [verdicts_error h, refusals_some]
      exact congrArg (_ :: ·) (ih r)

/-! ## Judging twice -/

/-- Verdicts of a first judgement and, on what it takes, of a second one. -/
def appealed : List Verdict → List Verdict → List Verdict
  | [], _ => []
  | some e :: vs, ws => some e :: appealed vs ws
  | none :: vs, ws => ws.headD none :: appealed vs ws.tail

@[simp] theorem length_appealed (vs ws : List Verdict) : (appealed vs ws).length = vs.length := by
  induction vs generalizing ws with
  | nil => rfl
  | cons v vs ih => cases v <;> simp [appealed, ih]

theorem taken_appealed {α : Type} {vs ws : List Verdict} {xs : List α} (hv : vs.length = xs.length)
    (hw : ws.length = (taken vs xs).length) : taken (appealed vs ws) xs = taken ws (taken vs xs) := by
  induction vs generalizing ws xs with
  | nil => rw [List.length_eq_zero_iff.mp hv.symm]; simp
  | cons v vs ih =>
    obtain ⟨x, xs, rfl⟩ := List.exists_cons_of_length_eq_add_one hv.symm
    have hv' : vs.length = xs.length := by simpa using hv
    cases v with
    | some e => exact ih hv' hw
    | none =>
      obtain ⟨w, ws, rfl⟩ := List.exists_cons_of_length_eq_add_one hw
      have := ih hv' (show ws.length = (taken vs xs).length by simpa using hw)
      cases w with
      | none => exact congrArg (x :: ·) this
      | some e => exact this

/-- The refusals of both judgements. -/
theorem refusals_appealed {vs ws : List Verdict} {cs : List OrderCost} (hv : vs.length = cs.length)
    (hw : ws.length = (taken vs cs).length) :
    (refusals (appealed vs ws) cs).Perm (refusals vs cs ++ refusals ws (taken vs cs)) := by
  induction vs generalizing ws cs with
  | nil => rw [List.length_eq_zero_iff.mp hv.symm]; simp
  | cons v vs ih =>
    obtain ⟨c, cs, rfl⟩ := List.exists_cons_of_length_eq_add_one hv.symm
    have hv' : vs.length = cs.length := by simpa using hv
    cases v with
    | some e => exact (ih hv' hw).cons _
    | none =>
      obtain ⟨w, ws, rfl⟩ := List.exists_cons_of_length_eq_add_one hw
      have := ih hv' (show ws.length = (taken vs cs).length by simpa using hw)
      cases w with
      | none => exact this
      | some e => exact (this.cons _).trans List.perm_middle.symm

theorem appealed_of_all_none {vs ws : List Verdict} (hv : ∀ v ∈ vs, v = none) (hw : ∀ w ∈ ws, w = none) :
    ∀ v ∈ appealed vs ws, v = none := by
  induction vs generalizing ws with
  | nil => intro v h; cases h
  | cons v vs ih =>
    rw [hv v List.mem_cons_self]
    intro x hx
    rcases List.mem_cons.mp hx with rfl | hx
    · cases ws with
      | nil => rfl
      | cons w ws => exact hw w List.mem_cons_self
    · exact ih (fun u hu => hv u (List.mem_cons_of_mem v hu)) (fun u hu => hw u (List.mem_of_mem_tail hu)) x hx

/-- Every item that the one refuses, the other refuses too. -/
def NoStricter (vs ws : List Verdict) : Prop := List.Forall₂ (fun v w => v.isSome → w.isSome) vs ws

/-- Every item that the one refuses, the other refuses for the same reason. -/
def Echoed (vs ws : List Verdict) : Prop := List.Forall₂ (fun v w => v.isSome → w = v) vs ws

theorem Echoed.noStricter {vs ws : List Verdict} (h : Echoed vs ws) : NoStricter vs ws := by
  refine List.Forall₂.imp ?_ h
  intro v w hvw hv
  rw [hvw hv]
  exact hv

theorem NoStricter.congr {vs us ws : List Verdict} (h : NoStricter vs us)
    (e : us.map (·.isSome) = ws.map (·.isSome)) : NoStricter vs ws := by
  have hu : List.Forall₂ (fun (v : Verdict) (b : Bool) => v.isSome → b) vs (us.map (·.isSome)) :=
    List.forall₂_map_right_iff.mpr h
  rw [e] at hu
  exact List.forall₂_map_right_iff.mp hu

theorem echoed_appealed (vs ws : List Verdict) : Echoed vs (appealed vs ws) := by
  induction vs generalizing ws with
  | nil => exact .nil
  | cons v vs ih =>
    cases v with
    | some e => exact .cons (fun _ => rfl) (ih ws)
    | none => exact .cons (fun h => nomatch h) (ih ws.tail)

/-- A second judgement that is the rest of another one. -/
theorem appealed_taken {vs us : List Verdict} (h : vs.length = us.length) :
    appealed vs (taken vs us) = vs.zipWith Option.or us := by
  induction vs generalizing us with
  | nil => rfl
  | cons v vs ih =>
    obtain ⟨u, us, rfl⟩ := List.exists_cons_of_length_eq_add_one h.symm
    have := ih (show vs.length = us.length by simpa using h)
    cases v with
    | some e => exact congrArg (some e :: ·) this
    | none => exact congrArg (u :: ·) this

theorem zipWith_or_of_echoed {vs us : List Verdict} (h : Echoed vs us) : vs.zipWith Option.or us = us := by
  induction h with
  | nil => rfl
  | @cons v u vs us hvu _ ih =>
    rw [List.zipWith_cons_cons, ih]
    cases v with
    | none => rfl
    | some e => rw [hvu rfl, Option.some_or]

theorem isSome_zipWith_or {vs us : List Verdict} (h : NoStricter vs us) :
    (vs.zipWith Option.or us).map (·.isSome) = us.map (·.isSome) := by
  induction h with
  | nil => rfl
  | @cons v u vs us hvu _ ih =>
    rw [List.zipWith_cons_cons, List.map_cons, List.map_cons, ih]
    cases v with
    | none => rfl
    | some e => rw [hvu rfl]; rfl

/-- Costs that a merge refuses may be left out of it: the others are judged as before. -/
theorem verdicts_taken {r : Report} {cs : List OrderCost} {vs : List Verdict} (h : NoStricter vs (r.verdicts cs)) :
    r.verdicts (taken vs cs) = taken vs (r.verdicts cs) ∧ (r.merge (taken vs cs)).1 = (r.merge cs).1 := by
  -- both merges are at the same report before each cost: what is left out would not have changed it
  induction cs generalizing r vs with
  | nil => cases h; exact ⟨rfl, rfl⟩
  | cons c cs ih =>
    rw [merge_cons]
    cases hadd : (add c).run r with
    | ok _ r' =>
      rw [verdicts_ok hadd] at h ⊢
      rcases h with _ | ⟨hv, h⟩
      rename_i v vs
      obtain ⟨h1, h2⟩ := ih h
      cases v with
      | some e => exact absurd (hv rfl) (by simp)
      | none =>
        rw [taken_none, taken_none, verdicts_ok hadd, merge_cons, hadd]
        exact ⟨congrArg (none :: ·) h1, h2⟩
    | error e r' =>
      rw [verdicts_error hadd] at h ⊢
      rcases h with _ | ⟨hv, h⟩
      rename_i v vs
      obtain ⟨h1, h2⟩ := ih h
      cases v with
      | some e => exact ⟨h1, h2⟩
      | none =>
        rw [taken_none, taken_none, verdicts_error hadd, merge_cons, hadd]
        exact ⟨congrArg (some e :: ·) h1, h2⟩

/-- Two judgements take what the second alone takes if and only if the first refuses nothing else. -/
theorem accepts_iff {r : Report} {cs : List OrderCost} {vs : List Verdict} (hl : vs.length = cs.length) :
    (appealed vs (r.verdicts (taken vs cs))).map (·.isSome) = (r.verdicts cs).map (·.isSome) ↔
      NoStricter vs (r.verdicts cs) := by
  constructor
  · intro h
    have hv := (echoed_appealed vs (r.verdicts (taken vs cs))).noStricter
    exact hv.congr h
  · intro h
    rw [(verdicts_taken h).1, appealed_taken (by simpa using hl)]
    exact isSome_zipWith_or h

/-- They refuse for the same reasons if and only if the first refuses for the reasons of the second. -/
theorem judges_iff {r : Report} {cs : List OrderCost} {vs : List Verdict} (hl : vs.length = cs.length) :
    appealed vs (r.verdicts (taken vs cs)) = r.verdicts cs ↔ Echoed vs (r.verdicts cs) := by
  constructor
  · intro h
    have hv := echoed_appealed vs (r.verdicts (taken vs cs))
    rwa [h] at hv
  · intro h
    rw [(verdicts_taken h.noStricter).1, appealed_taken (by simpa using hl)]
    exact zipWith_or_of_echoed h

end Tariff.Report
