/-
  Tariff.Table — values under names, in ascending order of the names.

  Names are ordered by their code points, which is also the order of their UTF-8 bytes.
  The order is part of the type, so a table has one form for one content.
  - `get?_put_self` / `get?_put_of_ne`: `put` sets one name and leaves the others.
-/

namespace Tariff

structure Table (α : Type) where
  entries : List (String × α)
  ascending : entries.Pairwise (fun a b => a.1 < b.1)

namespace Table

variable {α : Type}

def empty : Table α := ⟨[], .nil⟩

instance : Inhabited (Table α) := ⟨empty⟩

instance [DecidableEq α] : DecidableEq (Table α) := fun a b =>
  decidable_of_iff (a.entries = b.entries) (by cases a; cases b; simp)

instance [Repr α] : Repr (Table α) := ⟨fun t n => reprPrec t.entries n⟩

/-- Sets `name` in ascending entries: in place if it is there, else where it belongs. -/
def insertIn (name : String) (a : α) : List (String × α) → List (String × α)
  | [] => [(name, a)]
  | (other, b) :: rest =>
    if name < other then (name, a) :: (other, b) :: rest
    else if name = other then (name, a) :: rest
    else (other, b) :: insertIn name a rest

theorem fst_mem_insertIn {name : String} {a : α} {es : List (String × α)} {e : String × α}
    (h : e ∈ insertIn name a es) : e.1 = name ∨ e ∈ es := by
  induction es with
  | nil => simp [insertIn] at h; simp [h]
  | cons x rest ih =>
    unfold insertIn at h
    split at h
    · rcases List.mem_cons.1 h with rfl | h
      · exact .inl rfl
      · exact .inr h
    · split at h
      · rcases List.mem_cons.1 h with rfl | h
        · exact .inl rfl
        · exact .inr (List.mem_cons_of_mem _ h)
      · rcases List.mem_cons.1 h with rfl | h
        · exact .inr List.mem_cons_self
        · exact (ih h).imp id (List.mem_cons_of_mem _)

theorem insertIn_ascending (name : String) (a : α) (es : List (String × α))
    (h : es.Pairwise (fun a b => a.1 < b.1)) :
    (insertIn name a es).Pairwise (fun a b => a.1 < b.1) := by
  induction es with
  | nil => simp [insertIn]
  | cons x rest ih =>
    obtain ⟨hx, hr⟩ := List.pairwise_cons.1 h
    unfold insertIn
    split
    · rename_i hlt
      refine List.pairwise_cons.2 ⟨fun e he => ?_, h⟩
      rcases List.mem_cons.1 he with rfl | he
      · exact hlt
      · exact String.lt_trans hlt (hx e he)
    · rename_i hge
      split
      · rename_i heq
        subst heq
        exact List.pairwise_cons.2 ⟨hx, hr⟩
      · rename_i hne
        refine List.pairwise_cons.2 ⟨fun e he => ?_, ih hr⟩
        rcases fst_mem_insertIn he with h' | h'
        · rw [h']
          exact String.not_le.1 fun hle => hne (String.le_antisymm hle (String.not_lt.1 hge))
        · exact hx e h'

def put (t : Table α) (name : String) (a : α) : Table α :=
  ⟨insertIn name a t.entries, insertIn_ascending name a t.entries t.ascending⟩

/-- The table of a list of entries; of two with one name the later counts. -/
def ofList (es : List (String × α)) : Table α := es.foldl (fun t e => t.put e.1 e.2) empty

def get? (t : Table α) (name : String) : Option α := t.entries.lookup name

def contains (t : Table α) (name : String) : Bool := (t.get? name).isSome

theorem lookup_insertIn_self (name : String) (a : α) (es : List (String × α)) :
    (insertIn name a es).lookup name = some a := by
  induction es with
  | nil => simp [insertIn]
  | cons x rest ih =>
    obtain ⟨other, b⟩ := x
    unfold insertIn
    split
    · simp
    · split
      · simp
      · rename_i hne
        rw [List.lookup_cons, beq_false_of_ne hne]
        exact ih

theorem lookup_insertIn_of_ne {name key : String} (a : α) (es : List (String × α)) (h : key ≠ name) :
    (insertIn name a es).lookup key = es.lookup key := by
  induction es with
  | nil => simp [insertIn, List.lookup_cons, beq_false_of_ne h]
  | cons x rest ih =>
    obtain ⟨other, b⟩ := x
    unfold insertIn
    split
    · rw [List.lookup_cons, beq_false_of_ne h]
    · split
      · rename_i heq
        subst heq
        simp [List.lookup_cons, beq_false_of_ne h]
      · rw [List.lookup_cons, List.lookup_cons, ih]

@[simp] theorem get?_put_self (t : Table α) (name : String) (a : α) : (t.put name a).get? name = some a :=
  lookup_insertIn_self name a t.entries

theorem get?_put_of_ne (t : Table α) {name key : String} (a : α) (h : key ≠ name) :
    (t.put name a).get? key = t.get? key :=
  lookup_insertIn_of_ne a t.entries h

def names (t : Table α) : List String := t.entries.map (·.1)

def values (t : Table α) : List α := t.entries.map (·.2)

def isEmpty (t : Table α) : Bool := t.entries.isEmpty

end Table

end Tariff
