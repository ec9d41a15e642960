/-
  Tariff.Proofs.Billing.FanOut — how the orders of a run are spread over workers.

  Three steps can fail: the bounds on the number of workers may cross, orders may be divided
  among no workers, and slices may be asked for of size zero. Here every step is written with
  its failure, and slices are cut until no order is left, however many workers there are.
  - `Settings.workersFor?_eq`: workers are bounded by the orders only where there is one, so
    the bounds never cross.
  - `length_slices`: there are as many slices as division rounded up says, and so no more
    than workers (`ceilDiv_ceilDiv_le`).
  - `fanOut_of_orders`: no step fails, no piece is empty, and no order is left out.
  - `run?_eq`: a run written with the steps that can fail is the run.
-/
import Mathlib.Algebra.Order.Floor.Div
import Tariff.Proofs.Billing.Pieces

namespace Tariff

/-! ## Workers -/

namespace Settings

/-- The number between two bounds that is nearest to `x`. There is none if the bounds cross. -/
def clamp? (lower upper x : Nat) : Option Nat :=
  if lower ≤ upper then some (max lower (min x upper)) else none

def workersFor? (s : Settings) (available orders : Nat) : Option Nat :=
  if orders < max s.parallelThreshold 1 then some 1 else clamp? 1 orders (min s.maxWorkers available)

theorem workersFor?_eq (s : Settings) (available orders : Nat) :
    s.workersFor? available orders = some (s.workersFor available orders) := by
  unfold workersFor? workersFor
  split
  · rfl
  · have h : 1 ≤ orders := by omega
    rw [clamp?, if_pos h]
    exact congrArg some (by omega)

-- The bounds of a run without orders would cross.
example (x : Nat) : clamp? 1 0 x = none := rfl

end Settings

namespace Billing

variable {α : Type}

/-! ## Slices -/

/-- `xs` in slices of `k + 1`, until nothing of it is left. Only the last may be shorter. -/
def slices (k : Nat) : List α → List (List α)
  | [] => []
  | x :: xs => (x :: xs.take k) :: slices k (xs.drop k)
termination_by xs => xs.length
decreasing_by rw [List.length_drop, List.length_cons]; omega

def slices? : Nat → List α → Option (List (List α))
  | 0, _ => none
  | k + 1, xs => some (slices k xs)

theorem ne_nil_of_mem_slices {k : Nat} {xs p : List α} (h : p ∈ slices k xs) : p ≠ [] := by
  induction xs using slices.induct k with
  | case1 => rw [slices] at h; cases h
  | case2 x xs ih =>
    rw [slices] at h
    rcases List.mem_cons.mp h with rfl | h
    · exact List.cons_ne_nil _ _
    · exact ih h

theorem length_slices_le_iff (k n : Nat) (xs : List α) : (slices k xs).length ≤ n ↔ xs.length ≤ (k + 1) * n := by
  induction xs using slices.induct k generalizing n with
  | case1 => simp [slices]
  | case2 x xs ih =>
    rw [slices]
    cases n with
    | zero => simp
    | succ n =>
      -- one slice less on the left is `k + 1` elements less on the right
      rw [List.length_cons, Nat.add_le_add_iff_right, ih, List.length_drop, List.length_cons, Nat.mul_succ]
      omega

theorem length_slices (k : Nat) (xs : List α) : (slices k xs).length = xs.length ⌈/⌉ (k + 1) :=
  eq_of_forall_ge_iff fun n => (length_slices_le_iff k n xs).trans (ceilDiv_le_iff_le_mul k.succ_pos).symm

/-- Pieces that are cut for `n` workers are all the slices, if these hold the whole list. -/
theorem piecesOf_eq_slices {k n : Nat} {xs : List α} (h : xs.length ≤ (k + 1) * n) :
    piecesOf (k + 1) n xs = slices k xs := by
  induction xs using slices.induct k generalizing n with
  | case1 => rw [slices]; cases n <;> rfl
  | case2 x xs ih =>
    cases n with
    | zero => simp at h
    | succ n =>
      have hrest : (xs.drop k).length ≤ (k + 1) * n := by
        rw [List.length_cons, Nat.mul_succ] at h
        rw [List.length_drop]
        omega
      rw [slices, ← ih hrest]
      rfl

theorem flatten_slices (k : Nat) (xs : List α) : (slices k xs).flatten = xs := by
  have h : xs.length ≤ (k + 1) * xs.length := Nat.le_mul_of_pos_left _ k.succ_pos
  rw [← piecesOf_eq_slices h, flatten_piecesOf _ _ _ h]

/-- What slices are, of whatever size they were asked for. -/
theorem pieces_of_slices? {size : Nat} {xs : List α} {pieces : List (List α)} (h : slices? size xs = some pieces) :
    pieces.flatten = xs ∧ (∀ p ∈ pieces, p ≠ []) ∧ pieces.length = xs.length ⌈/⌉ size := by
  cases size with
  | zero => cases h
  | succ k =>
    obtain rfl : slices k xs = pieces := Option.some.inj h
    exact ⟨flatten_slices k xs, fun _ hp => ne_nil_of_mem_slices hp, length_slices k xs⟩

/-! ## Slices for workers -/

/-- The size of the parts when `n` are divided into `parts`, rounded up. There is no division into none. -/
def ceilDiv? (n parts : Nat) : Option Nat := if parts = 0 then none else some (n ⌈/⌉ parts)

theorem ceilDiv_pos {n parts : Nat} (hn : 0 < n) (hp : 0 < parts) : 0 < n ⌈/⌉ parts := by
  rw [← not_le, ceilDiv_le_iff_le_mul hp]
  omega

theorem le_ceilDiv_mul (n : Nat) {parts : Nat} (hp : 0 < parts) : n ≤ n ⌈/⌉ parts * parts := by
  rw [Nat.mul_comm]
  exact le_smul_ceilDiv hp

/-- Parts of the size that division into `parts` gives are no more than that. -/
theorem ceilDiv_ceilDiv_le {n parts : Nat} (hn : 0 < n) (hp : 0 < parts) : n ⌈/⌉ (n ⌈/⌉ parts) ≤ parts :=
  (ceilDiv_le_iff_le_mul (ceilDiv_pos hn hp)).mpr (le_ceilDiv_mul n hp)

/-- The chunks are the slices of the size that division among the workers gives. -/
theorem slices?_ceilDiv {workers : Nat} (h : 0 < workers) {xs : List α} (hx : 0 < xs.length) :
    slices? (xs.length ⌈/⌉ workers) xs = some (chunks workers xs) := by
  have hcover := le_ceilDiv_mul xs.length h
  -- the size is not zero, so that slices of it exist
  obtain ⟨k, hk⟩ := Nat.exists_eq_add_one.mpr (ceilDiv_pos hx h)
  rw [hk] at hcover
  rw [chunks, ← Nat.ceilDiv_eq_add_pred_div, hk, piecesOf_eq_slices hcover]
  rfl

structure FanOut (s : Settings) (available : Nat) (orders : List Order) (workers size : Nat)
    (pieces : List (List Order)) : Prop where
  /-- The bounds on the workers do not cross. -/
  counted : s.workersFor? available orders.length = some workers
  workers_pos : 1 ≤ workers
  workers_le : workers ≤ orders.length
  workers_le_max : workers ≤ max 1 (min s.maxWorkers available)
  /-- Few orders stay with one worker. -/
  few : orders.length < s.parallelThreshold → workers = 1
  /-- The orders are divided among one worker at least. -/
  divided : ceilDiv? orders.length workers = some size
  size_pos : 1 ≤ size
  size_le : size ≤ orders.length
  /-- The slices are not of size zero. -/
  sliced : slices? size orders = some pieces
  length_le : pieces.length ≤ workers
  nonempty : ∀ p ∈ pieces, p ≠ []
  complete : pieces.flatten = orders

/-- From one order on, whatever the settings and the machine, no step of the fan-out fails, and its pieces are the
    chunks of the run: all of the orders, in no more pieces than there are workers, none of them empty. -/
theorem fanOut_of_orders (s : Settings) (available : Nat) {orders : List Order} (h : 1 ≤ orders.length) :
    ∃ size, FanOut s available orders (s.workersFor available orders.length) size
      (chunks (s.workersFor available orders.length) orders) := by
  have hw := s.workersFor_pos available orders.length
  have hsliced := slices?_ceilDiv hw h
  obtain ⟨hcomplete, hnonempty, hlength⟩ := pieces_of_slices? hsliced
  refine ⟨orders.length ⌈/⌉ s.workersFor available orders.length, ?_⟩
  exact {
    counted := s.workersFor?_eq available orders.length
    workers_pos := hw
    workers_le := s.workersFor_le available h
    workers_le_max := s.workersFor_le_max available orders.length
    few := fun hf => Settings.workersFor_of_lt hf available
    divided := if_neg (Nat.one_le_iff_ne_zero.mp hw)
    size_pos := ceilDiv_pos h hw
    size_le := (ceilDiv_le_iff_le_mul hw).mpr (Nat.le_mul_of_pos_left _ hw)
    sliced := hsliced
    length_le := hlength.trans_le (ceilDiv_ceilDiv_le h hw)
    nonempty := hnonempty
    complete := hcomplete }

/-- Four orders among three workers make two pieces of two. -/
theorem fanOut_of_orders_four :
    1 ≤ Small.orders.length ∧ (Settings.mk 3 2 true).workersFor 8 Small.orders.length = 3 ∧
      chunks 3 Small.orders = [Small.orders.take 2, Small.orders.drop 2] ∧
      ∃ size, FanOut ⟨3, 2, true⟩ 8 Small.orders 3 size (chunks 3 Small.orders) :=
  ⟨by decide, rfl, rfl, fanOut_of_orders ⟨3, 2, true⟩ 8 (by decide)⟩

/-! ## A run with its failures -/

/-- The pieces of a run, unless a step of the fan-out fails. The workers are counted also where there is nothing to
    bill, and one worker takes the orders as they are. -/
def pieces? (s : Settings) (available : Nat) (services : List Service) (orders : List Order) :
    Option (List (List Order)) := do
  let workers ← s.workersFor? available orders.length
  if services.isEmpty || orders.isEmpty then return []
  if workers ≤ 1 then return [orders]
  let size ← ceilDiv? orders.length workers
  slices? size orders

def run? (catalog : Catalog) (settings : Settings) (available : Nat) (r : Request) (orders : List Order)
    (cancelled : Bool) : Option Outcome :=
  (pieces? settings available (selected catalog r) (inScope r orders)).map (billPieces r (selected catalog r) cancelled)

theorem chunks_nil (workers : Nat) : chunks workers ([] : List α) = [] := by
  cases workers <;> rfl

theorem chunks_one {xs : List α} (h : 1 ≤ xs.length) : chunks 1 xs = [xs] := by
  obtain ⟨x, rest, rfl⟩ := List.exists_cons_of_length_pos h
  simp [chunks, piecesOf]

theorem pieces?_eq (s : Settings) (available : Nat) (services : List Service) (orders : List Order) :
    pieces? s available services orders =
      some (if services.isEmpty then [] else chunks (s.workersFor available orders.length) orders) := by
  have hw := s.workersFor_pos available orders.length
  simp only [pieces?, Settings.workersFor?_eq, Option.bind_eq_bind, Option.bind_some, Option.pure_def]
  generalize s.workersFor available orders.length = workers at hw
  cases hs : services.isEmpty with
  | true => rfl
  | false =>
    cases orders with
    | nil => rw [chunks_nil]; rfl
    | cons o rest =>
      have ho : 1 ≤ (o :: rest).length := Nat.succ_pos _
      by_cases h1 : workers ≤ 1
      · obtain rfl : workers = 1 := by omega
        rw [chunks_one ho]
        rfl
      · rw [ceilDiv?, if_neg (Nat.one_le_iff_ne_zero.mp hw)]
        simpa [h1] using slices?_ceilDiv hw ho

/-- No run fails in its fan-out, with nothing to bill either. -/
theorem run?_eq (catalog : Catalog) (settings : Settings) (available : Nat) (r : Request) (orders : List Order)
    (cancelled : Bool) :
    run? catalog settings available r orders cancelled = some (run catalog settings available r orders cancelled) := by
  rw [run?, pieces?_eq, run_eq]
  rfl

end Billing

end Tariff
