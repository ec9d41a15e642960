/-
  Tariff.Proofs.Table — tables by what their look-ups answer.

  - `ext_get?`: tables that answer alike are equal.
  - `mem_entries_iff`: the entries are what look-ups find.
  - `values_overlay`: the values of a table laid over another one.
  - `sum_values_put`: a sum over the values changes by the new value less the old one.
-/
import Mathlib.Tactic.Linarith
import Mathlib.Algebra.Order.BigOperators.Group.List
import Mathlib.Data.List.Induction
import Mathlib.Data.List.Nodup
import Tariff.Table

namespace Tariff.Table

variable {α : Type}

/-! ## Look-ups -/

@[simp] theorem get?_empty (name : String) : (empty : Table α).get? name = none := rfl

theorem get?_put (t : Table α) (name key : String) (a : α) :
    (t.put name a).get? key = if key = name then some a else t.get? key := by
  by_cases h : key = name
  · subst h; rw [get?_put_self, if_pos rfl]
  · rw [get?_put_of_ne t a h, if_neg h]

theorem names_ascending (t : Table α) : t.names.Pairwise (· < ·) :=
  List.pairwise_map.mpr t.ascending

theorem nodup_of_ascending {l : List String} (h : l.Pairwise (· < ·)) : l.Nodup := by
  refine h.imp ?_
  intro a b hab e
  subst e
  exact String.lt_irrefl a hab

theorem names_nodup (t : Table α) : t.names.Nodup := nodup_of_ascending t.names_ascending

theorem lookup_of_mem {es : List (String × α)} (h : (es.map (·.1)).Nodup) {e : String × α} (he : e ∈ es) :
    es.lookup e.1 = some e.2 := by
  induction es with
  | nil => cases he
  | cons x rest ih =>
    rw [List.map_cons, List.nodup_cons] at h
    rcases List.mem_cons.mp he with rfl | he
    · exact List.lookup_cons_self
    · have hne : e.1 ≠ x.1 := by
        intro hx
        exact h.1 (hx ▸ List.mem_map_of_mem he)
      rw [List.lookup_cons, beq_false_of_ne hne]
      exact ih h.2 he

theorem mem_of_lookup {es : List (String × α)} {name : String} {a : α} (h : es.lookup name = some a) :
    (name, a) ∈ es := by
  obtain ⟨before, after, rfl, -⟩ := List.lookup_eq_some_iff.mp h
  exact List.mem_append_right _ List.mem_cons_self

/-- What is under a name does not depend on the order, if each name is there once. -/
theorem lookup_perm {es fs : List (String × α)} (hp : es.Perm fs) (hn : (fs.map (·.1)).Nodup) (name : String) :
    es.lookup name = fs.lookup name := by
  have hne : (es.map (·.1)).Nodup := (hp.map _).nodup_iff.mpr hn
  refine Option.ext fun a => ?_
  constructor
  · intro h
    exact lookup_of_mem hn (hp.mem_iff.mp (mem_of_lookup h))
  · intro h
    exact lookup_of_mem hne (hp.mem_iff.mpr (mem_of_lookup h))

theorem mem_entries_iff (t : Table α) (name : String) (a : α) : (name, a) ∈ t.entries ↔ t.get? name = some a := by
  constructor
  · intro h
    exact lookup_of_mem t.names_nodup h
  · intro h
    exact mem_of_lookup h

theorem mem_names_iff (t : Table α) (name : String) : name ∈ t.names ↔ (t.get? name).isSome = true := by
  rw [names, List.mem_map, Option.isSome_iff_exists]
  constructor
  · rintro ⟨⟨_, a⟩, he, rfl⟩
    exact ⟨a, (t.mem_entries_iff _ a).mp he⟩
  · rintro ⟨a, ha⟩
    exact ⟨(name, a), (t.mem_entries_iff name a).mpr ha, rfl⟩

theorem mem_values_iff {t : Table α} {a : α} : a ∈ t.values ↔ ∃ name, t.get? name = some a := by
  rw [values, List.mem_map]
  constructor
  · rintro ⟨⟨name, _⟩, he, rfl⟩
    exact ⟨name, (t.mem_entries_iff name _).mp he⟩
  · rintro ⟨name, ha⟩
    exact ⟨(name, a), (t.mem_entries_iff name a).mpr ha, rfl⟩

/-- Names in ascending order are determined by which names there are. -/
theorem eq_of_ascending {as bs : List String} (ha : as.Pairwise (· < ·)) (hb : bs.Pairwise (· < ·))
    (h : ∀ s, s ∈ as ↔ s ∈ bs) : as = bs := by
  have hp : as.Perm bs := (List.perm_ext_iff_of_nodup (nodup_of_ascending ha) (nodup_of_ascending hb)).mpr h
  refine List.Perm.eq_of_pairwise ?_ ha hb hp
  intro a b _ _ hab hba
  exact absurd (String.lt_trans hab hba) (String.lt_irrefl a)

/-- The entries, name by name. -/
theorem entries_eq_map_names (t : Table α) : t.entries.map some = t.names.map fun k => (t.get? k).map (k, ·) := by
  rw [names, List.map_map]
  refine List.map_congr_left fun e he => ?_
  simp only [Function.comp, get?, lookup_of_mem t.names_nodup he, Option.map_some]

theorem ext_get? {s t : Table α} (h : ∀ name, s.get? name = t.get? name) : s = t := by
  have hn : s.names = t.names := by
    refine eq_of_ascending s.names_ascending t.names_ascending ?_
    intro k
    rw [mem_names_iff, mem_names_iff, h]
  have he : s.entries.map some = t.entries.map some := by
    rw [entries_eq_map_names, entries_eq_map_names, hn]
    exact List.map_congr_left fun k _ => by rw [h]
  have hes : s.entries = t.entries := List.map_injective_iff.mpr (Option.some_injective _) he
  cases s
  cases t
  simpa using hes

theorem mem_of_mem_ofList {es : List (String × α)} {e : String × α} (h : e ∈ (ofList es).entries) : e ∈ es := by
  induction es using List.reverseRecOn with
  | nil => cases h
  | append_singleton es last ih =>
    rw [ofList, List.foldl_append, List.foldl_cons, List.foldl_nil, mem_entries_iff, get?_put] at h
    rw [List.mem_append, List.mem_singleton]
    split_ifs at h with hname
    · exact .inr (Prod.ext hname (Option.some.inj h).symm)
    · exact .inl (ih ((mem_entries_iff _ _ _).mpr h))

theorem mem_names_ofList {es : List (String × α)} {name : String} : name ∈ (ofList es).names ↔ name ∈ es.map (·.1) := by
  induction es using List.reverseRecOn with
  | nil => simp [ofList, names, empty]
  | append_singleton es last ih =>
    rw [mem_names_iff] at ih
    rw [ofList, List.foldl_append, List.foldl_cons, List.foldl_nil, mem_names_iff, get?_put, List.map_append,
      List.mem_append, ← ih]
    by_cases h : name = last.1 <;> simp [h, ofList]

/-- Tables without values are equal when they have the same names. -/
theorem ext_names {s t : Table Unit} (h : ∀ name, name ∈ s.names ↔ name ∈ t.names) : s = t := by
  refine ext_get? fun name => ?_
  have hname := h name
  rw [mem_names_iff, mem_names_iff] at hname
  cases hs : s.get? name <;> cases ht : t.get? name <;> simp_all

/-- The table of a list has an entry as soon as the list has. -/
theorem isEmpty_ofList (es : List (String × α)) : (ofList es).isEmpty = es.isEmpty := by
  have hput : ∀ (t : Table α) (e : String × α), (t.put e.1 e.2).isEmpty = false := by
    intro t e
    refine List.isEmpty_eq_false_iff.mpr ?_
    intro hnil
    have hself := t.get?_put_self e.1 e.2
    rw [get?, hnil] at hself
    cases hself
  -- the last entry that is put is there
  induction es using List.reverseRecOn with
  | nil => rfl
  | append_singleton es e _ =>
    rw [ofList, List.foldl_append, List.foldl_cons, List.foldl_nil, hput]
    simp

/-! ## Overlays -/

def without {β : Type} (s : Table α) (u : Table β) : List (String × α) := s.entries.filter fun e => !u.contains e.1

theorem mem_without_iff {β : Type} {s : Table α} {u : Table β} {name : String} {a : α} :
    (name, a) ∈ s.without u ↔ s.get? name = some a ∧ u.get? name = none := by
  unfold without contains
  rw [List.mem_filter, mem_entries_iff]
  simp

theorem mem_map_without_iff {β γ : Type} {s : Table α} {u : Table β} {f : α → γ} {name : String} {c : γ} :
    (name, c) ∈ ((s.without u).map fun e => (e.1, f e.2)) ↔ u.get? name = none ∧ (s.get? name).map f = some c := by
  constructor
  · intro h
    obtain ⟨⟨_, a⟩, ha, he⟩ := List.mem_map.mp h
    cases he
    obtain ⟨hs, hu⟩ := mem_without_iff.mp ha
    exact ⟨hu, by rw [hs]; rfl⟩
  · rintro ⟨hu, hs⟩
    obtain ⟨a, ha, rfl⟩ := Option.map_eq_some_iff.mp hs
    exact List.mem_map.mpr ⟨(name, a), mem_without_iff.mpr ⟨ha, hu⟩, rfl⟩

theorem mem_map_entries_iff {γ : Type} {t : Table α} {f : α → γ} {name : String} {c : γ} :
    (name, c) ∈ (t.entries.map fun e => (e.1, f e.2)) ↔ (t.get? name).map f = some c := by
  simp [mem_entries_iff]

theorem nodup_overlay {β : Type} (s : Table α) (u : Table β) (f : α → β) :
    ((s.without u).map (fun e => (e.1, f e.2)) ++ u.entries).Nodup := by
  refine List.Nodup.of_map (·.1) ?_
  rw [List.map_append, List.map_map]
  refine List.nodup_append'.mpr ⟨?_, u.names_nodup, fun name hs hu => ?_⟩
  · exact s.names_nodup.sublist (List.filter_sublist.map _)
  · obtain ⟨⟨_, a⟩, ha, rfl⟩ := List.mem_map.mp hs
    have hnone := (mem_without_iff.mp ha).2
    have hsome := (u.mem_names_iff _).mp hu
    simp [hnone] at hsome

/-- A table that answers as `u` does, and where `u` has no answer as `s`, has their values. -/
theorem values_overlay {β : Type} {s : Table α} {u : Table β} {t : Table α} {f : α → β}
    (h : ∀ name, (t.get? name).map f = (u.get? name).or ((s.get? name).map f)) :
    ((s.without u).map (fun e => f e.2) ++ u.values).Perm (t.values.map f) := by
  have hn : (t.entries.map fun e => (e.1, f e.2)).Nodup :=
    List.Nodup.of_map (·.1) (by rw [List.map_map]; exact t.names_nodup)
  have hp : ((s.without u).map (fun e => (e.1, f e.2)) ++ u.entries).Perm (t.entries.map fun e => (e.1, f e.2)) := by
    refine (List.perm_ext_iff_of_nodup (nodup_overlay s u f) hn).mpr fun ⟨name, b⟩ => ?_
    rw [mem_map_entries_iff, h, List.mem_append, mem_entries_iff, Option.or_eq_some_iff, mem_map_without_iff, or_comm]
  have := hp.map (·.2)
  simpa [values, List.map_map, Function.comp_def] using this

/-! ## Sums over the values -/

theorem lookup_eq_none_of_lt {name : String} {es : List (String × α)} (h : ∀ e ∈ es, name < e.1) :
    es.lookup name = none := by
  refine List.lookup_eq_none_iff.mpr ?_
  intro e he
  rw [bne_iff_ne]
  intro hx
  exact String.lt_irrefl e.1 (hx ▸ h e he)

theorem sum_insertIn (f : α → Rat) (name : String) (a : α) {es : List (String × α)}
    (h : es.Pairwise fun a b => a.1 < b.1) :
    ((insertIn name a es).map fun e => f e.2).sum + ((es.lookup name).map f).getD 0 =
      (es.map fun e => f e.2).sum + f a := by
  induction es with
  | nil => simp [insertIn]
  | cons x rest ih =>
    obtain ⟨other, b⟩ := x
    obtain ⟨hx, hr⟩ := List.pairwise_cons.mp h
    unfold insertIn
    split
    · rename_i hlt
      have hn : ((other, b) :: rest).lookup name = none := by
        refine lookup_eq_none_of_lt ?_
        intro e he
        rcases List.mem_cons.mp he with rfl | he
        · exact hlt
        · exact String.lt_trans hlt (hx e he)
      rw [hn]
      simp only [List.map_cons, List.sum_cons, Option.map_none, Option.getD_none]
      linarith
    · split
      · rename_i heq
        subst heq
        simp only [List.map_cons, List.sum_cons, List.lookup_cons_self, Option.map_some, Option.getD_some]
        linarith
      · rename_i hne
        have := ih hr
        simp only [List.map_cons, List.sum_cons, List.lookup_cons, beq_false_of_ne hne]
        linarith

theorem sum_values_put (f : α → Rat) (t : Table α) (name : String) (a : α) :
    ((t.put name a).values.map f).sum + ((t.get? name).map f).getD 0 = (t.values.map f).sum + f a := by
  have := sum_insertIn f name a t.ascending
  simpa [put, values, get?, Function.comp_def] using this

end Tariff.Table
