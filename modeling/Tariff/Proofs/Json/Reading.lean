/-
  Tariff.Proofs.Json.Reading — what the readers of JSON data accept.

  They stop at the first fault. So what they gave a result for has none, in any item of a
  list and in any member of a record.
  - `ok_of_mem_mapM` / `mapM_eq_error_iff`: a list is read item by item, up to the first fault.
  - `Source.sound_of_check`: each member of a record that was read is a sound field.

  A writer may put the members of an object in any order, in each object of a value
  (`Value.rearranged`). The fields of a record are looked up by name, and in no order do
  sound members make a fault.
  - `Arranged.slot` / `Arranged.check`: the fields and the check of a record.
-/
import Tariff.Json.Reading
import Tariff.Proofs.Table

namespace Tariff.Json

def Refused {α : Type} (r : Reading α) : Prop := ∃ e, r = .error e

/-! ## Steps and lists -/

section Except

variable {ε α β : Type}

theorem bind_eq_ok_iff {x : Except ε α} {f : α → Except ε β} {b : β} :
    (x >>= f) = .ok b ↔ ∃ a, x = .ok a ∧ f a = .ok b := by
  cases x with
  | error e => simp [bind, Except.bind]
  | ok a => simp [bind, Except.bind]

theorem bind_eq_error_iff {x : Except ε α} {f : α → Except ε β} {e : ε} :
    (x >>= f) = .error e ↔ x = .error e ∨ ∃ a, x = .ok a ∧ f a = .error e := by
  cases x with
  | error e' => simp [bind, Except.bind]
  | ok a => simp [bind, Except.bind]

theorem exists_of_map_eq_ok {x : Except ε α} {f : α → β} {b : β} (h : x.map f = .ok b) : ∃ a, x = .ok a ∧ f a = b := by
  cases x with
  | error e => cases h
  | ok a =>
    cases h
    exact ⟨a, rfl, rfl⟩

theorem ok_of_mem_mapM {f : α → Except ε β} {xs : List α} {ys : List β} (h : xs.mapM f = .ok ys) {x : α}
    (hx : x ∈ xs) : ∃ y, f x = .ok y := by
  induction xs generalizing ys with
  | nil => cases hx
  | cons first rest ih =>
    rw [List.mapM_cons] at h
    obtain ⟨y, hy, h⟩ := bind_eq_ok_iff.mp h
    obtain ⟨ys', hys', -⟩ := bind_eq_ok_iff.mp h
    rcases List.mem_cons.mp hx with rfl | hx
    · exact ⟨y, hy⟩
    · exact ih hys' hx

/-- The error is that of the first item that has one. -/
theorem mapM_eq_error_iff {f : α → Except ε β} {xs : List α} {e : ε} :
    xs.mapM f = .error e ↔ ∃ before x after, xs = before ++ x :: after ∧
      (∀ b ∈ before, ∃ y, f b = .ok y) ∧ f x = .error e := by
  induction xs with
  | nil => simp [pure, Except.pure]
  | cons x rest ih =>
    rw [List.mapM_cons, bind_eq_error_iff]
    constructor
    · rintro (hx | ⟨y, hy, hrest⟩)
      · exact ⟨[], x, rest, rfl, by simp, hx⟩
      · rcases bind_eq_error_iff.mp hrest with hrest | ⟨_, _, hpure⟩
        · obtain ⟨before, z, after, rfl, hbefore, hz⟩ := ih.mp hrest
          exact ⟨x :: before, z, after, rfl, List.forall_mem_cons.mpr ⟨⟨y, hy⟩, hbefore⟩, hz⟩
        · cases hpure
    · rintro ⟨before, z, after, hxs, hbefore, hz⟩
      cases before with
      | nil =>
        obtain ⟨rfl, rfl⟩ := List.cons.inj hxs
        exact .inl hz
      | cons b before =>
        obtain ⟨rfl, rfl⟩ := List.cons.inj hxs
        obtain ⟨⟨y, hy⟩, hbefore⟩ := List.forall_mem_cons.mp hbefore
        exact .inr ⟨y, hy, bind_eq_error_iff.mpr (.inl (ih.mpr ⟨before, z, after, rfl, hbefore, hz⟩))⟩

end Except

/-! ## Records -/

theorem lookup_zip {α : Type} {names : List String} (hn : names.Nodup) {i : Nat} {name : String}
    (hi : names[i]? = some name) (items : List α) : (names.zip items).lookup name = items[i]? := by
  induction names generalizing i items with
  | nil => simp at hi
  | cons first names ih =>
    obtain ⟨hfirst, hnames⟩ := List.nodup_cons.mp hn
    cases items with
    | nil => simp
    | cons item items =>
      rw [List.zip_cons_cons, List.lookup_cons]
      cases i with
      | zero =>
        obtain rfl : first = name := by simpa using hi
        simp
      | succ i =>
        rw [List.getElem?_cons_succ] at hi
        have hne : name ≠ first := fun h => hfirst (h ▸ List.mem_of_getElem? hi)
        rw [beq_false_of_ne hne, List.getElem?_cons_succ]
        exact ih hnames hi items

/-- The members that an array stands for. -/
theorem members_of_array {type : String} {names : List String} {required : Nat} {items : List Value} {src : Source}
    (h : Source.of type names required (.array items) = .ok src) : src.members = names.zip items := by
  unfold Source.of at h
  cases h
  rfl

theorem members_of_object {type : String} {names : List String} {required : Nat} {members : List (String × Value)}
    {src : Source} (h : Source.of type names required (.object members) = .ok src) : src.members = members := by
  unfold Source.of at h
  cases h
  rfl

/-- A member of a record that was read has no fault. If it is no field, the record is one that may have others. -/
theorem Source.sound_of_check {src : Source} {faults : List (String × Option ReadError)} {closed : Bool}
    (h : src.check faults closed = .ok ()) {name : String} {v : Value} (hv : src.members.lookup name = some v) :
    faults.lookup name = some none ∨ faults.lookup name = none ∧ closed = false := by
  unfold check at h
  dsimp only at h
  generalize hfirst : src.members.findSome? _ = first at h
  cases first with
  | some e => cases h
  | none =>
    have hmember := List.findSome?_eq_none_iff.mp hfirst (name, v) (Table.mem_of_lookup hv)
    cases hfault : faults.lookup name with
    | some fault =>
      simp only [hfault] at hmember
      exact .inl (congrArg some hmember)
    | none =>
      simp only [hfault] at hmember
      cases closed with
      | true => simp at hmember
      | false => exact .inr ⟨rfl, rfl⟩

/-- A field without fault was read, if it is there. -/
theorem Source.read_of_slot {src : Source} {α : Type} {name : String} {v : Value} (read : Value → Reading α)
    (hv : src.members.lookup name = some v) (h : (src.slot name read).fault.2 = none) : ∃ a, read v = .ok a := by
  rw [Source.slot, hv, Option.map_some] at h
  cases hr : read v with
  | ok a => exact ⟨a, rfl⟩
  | error e => simp [Slot.fault, hr] at h

/-! ## Members in another order -/

structure Arranged (members fields : List (String × Value)) : Prop where
  perm : members.Perm fields
  nodup : (fields.map (·.1)).Nodup

namespace Value

mutual

/-- The value with the members of every object in it put in order by `arrange`. -/
def rearranged (arrange : List (String × Value) → List (String × Value)) : Value → Value
  | .array items => .array (rearrangedItems arrange items)
  | .object members => .object (arrange (rearrangedMembers arrange members))
  | v => v

def rearrangedItems (arrange : List (String × Value) → List (String × Value)) : List Value → List Value
  | [] => []
  | v :: rest => v.rearranged arrange :: rearrangedItems arrange rest

def rearrangedMembers (arrange : List (String × Value) → List (String × Value)) :
    List (String × Value) → List (String × Value)
  | [] => []
  | (name, v) :: rest => (name, v.rearranged arrange) :: rearrangedMembers arrange rest

end

variable {arrange : List (String × Value) → List (String × Value)}

@[simp] theorem rearranged_bool (b : Bool) : (Value.bool b).rearranged arrange = .bool b := rfl

@[simp] theorem rearranged_string (s : String) : (Value.string s).rearranged arrange = .string s := rfl

@[simp] theorem rearranged_array (items : List Value) :
    (Value.array items).rearranged arrange = .array (items.map (·.rearranged arrange)) := by
  have hmap : rearrangedItems arrange items = items.map (·.rearranged arrange) := by
    induction items with
    | nil => rfl
    | cons v rest ih => rw [rearrangedItems, ih, List.map_cons]
  rw [rearranged, hmap]

theorem rearranged_object (members : List (String × Value)) :
    (Value.object members).rearranged arrange =
      .object (arrange (members.map fun m => (m.1, m.2.rearranged arrange))) := by
  have hmap : rearrangedMembers arrange members = members.map fun m => (m.1, m.2.rearranged arrange) := by
    induction members with
    | nil => rfl
    | cons m rest ih => rw [rearrangedMembers, ih, List.map_cons]
  rw [rearranged, hmap]

/-- A record is still one if its members are put in another order. -/
theorem exists_arranged (harr : ∀ ms, (arrange ms).Perm ms) {v : Value} {fields : List (String × Value)}
    (h : v = .object fields) (hn : (fields.map (·.1)).Nodup) :
    ∃ members, v.rearranged arrange = .object members ∧
      Arranged members (fields.map fun m => (m.1, m.2.rearranged arrange)) := by
  refine ⟨_, h ▸ rearranged_object fields, harr _, ?_⟩
  rwa [List.map_map]

end Value

/-! ## Sound data -/

@[simp] theorem ok_bind {α β : Type} (a : α) (f : α → Reading β) : (Except.ok a >>= f) = f a := rfl

theorem mapM_map_ok {α β γ : Type} {enc : α → β} {read : β → Reading γ} {dec : α → γ} {xs : List α}
    (h : ∀ x ∈ xs, read (enc x) = .ok (dec x)) : (xs.map enc).mapM read = .ok (xs.map dec) := by
  induction xs with
  | nil => rfl
  | cons x rest ih =>
    obtain ⟨hx, hrest⟩ := List.forall_mem_cons.mp h
    rw [List.map_cons, List.mapM_cons, hx, ok_bind, ih hrest]
    rfl

/-- A list is read if its items are. -/
theorem readList_map {α β : Type} {enc : α → Value} {read : Value → Reading β} {dec : α → β} {xs : List α}
    (h : ∀ x ∈ xs, read (enc x) = .ok (dec x)) : readList read (.array (xs.map enc)) = .ok (xs.map dec) := by
  rw [readList, mapM_map_ok h]

theorem readList_map_self {α : Type} {enc : α → Value} {read : Value → Reading α} {xs : List α}
    (h : ∀ x ∈ xs, read (enc x) = .ok x) : readList read (.array (xs.map enc)) = .ok xs := by
  have hmap : ∀ x ∈ xs, read (enc x) = .ok (id x) := h
  rw [readList_map hmap, List.map_id]

@[simp] theorem readList_texts (xs : List String) : readList readText (.array (xs.map .string)) = .ok xs :=
  readList_map_self fun _ _ => rfl

/-! ## Fields of a record -/

namespace Slot

variable {α : Type} (name : String) (a b : α)

@[simp] theorem fault_ok : (Slot.mk name (some (.ok a))).fault = (name, none) := rfl

@[simp] theorem required_ok : (Slot.mk name (some (.ok a))).required = .ok a := rfl

@[simp] theorem getD_ok : (Slot.mk name (some (.ok a))).getD b = .ok a := rfl

end Slot

variable {members fields : List (String × Value)}

@[simp] theorem Source.of_object (type : String) (names : List String) (required : Nat) :
    Source.of type names required (.object members) = .ok ⟨members, none⟩ := rfl

namespace Arranged

theorem lookup (h : Arranged members fields) (name : String) : members.lookup name = fields.lookup name :=
  Table.lookup_perm h.perm h.nodup name

theorem slot (h : Arranged members fields) {α : Type} (name : String) (read : Value → Reading α) :
    (Source.mk members none).slot name read = ⟨name, (fields.lookup name).map read⟩ := by
  rw [Source.slot, h.lookup]

/-- Members that are just the fields of a record, and all sound, pass. -/
theorem check (h : Arranged members fields) {faults : List (String × Option ReadError)}
    (hf : faults = fields.map fun m => (m.1, none)) (closed : Bool) :
    (Source.mk members none).check faults closed = .ok () := by
  have hsound : ∀ m ∈ members, faults.lookup m.1 = some none := by
    intro m hm
    have hmem : (m.1, none) ∈ faults := hf ▸ List.mem_map_of_mem (h.perm.mem_iff.mp hm)
    refine Table.lookup_of_mem ?_ hmem
    rw [hf, List.map_map]
    exact h.nodup
  simp only [Source.check]
  rw [List.findSome?_eq_none_iff.mpr fun m hm => by rw [hsound m hm]]
  rfl

end Arranged

end Tariff.Json
