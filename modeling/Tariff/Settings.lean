/-
  Tariff.Settings — settings of a billing run.

  Settings come from a record, or from the environment over the defaults of the machine.
  `workersFor` decides how many chunks a run is split into: one for few orders
  (`workersFor_of_lt`), and never more than there are orders (`workersFor_pos`,
  `workersFor_le`) or than the settings and the machine allow (`workersFor_le_max`).
-/
import Tariff.Json.Reading
import Tariff.Text

namespace Tariff

structure Settings where
  /-- The most workers that a run uses. -/
  maxWorkers : Nat
  /-- The number of orders from which on a run is split. -/
  parallelThreshold : Nat
  /-- Skipped charges are listed. -/
  collectDiagnostics : Bool
  deriving DecidableEq, Repr

namespace Settings

def defaultThreshold : Nat := 64

def default (available : Nat) : Settings := ⟨available, defaultThreshold, true⟩

def sequential : Settings := ⟨1, defaultThreshold, true⟩

def workersFor (s : Settings) (available orders : Nat) : Nat :=
  if orders < max s.parallelThreshold 1 then 1
  else min (max (min s.maxWorkers available) 1) orders

theorem workersFor_pos (s : Settings) (available orders : Nat) : 1 ≤ s.workersFor available orders := by
  unfold workersFor
  split <;> omega

theorem workersFor_le (s : Settings) (available : Nat) {orders : Nat} (h : 1 ≤ orders) :
    s.workersFor available orders ≤ orders := by
  unfold workersFor
  split <;> omega

theorem workersFor_le_max (s : Settings) (available orders : Nat) :
    s.workersFor available orders ≤ max 1 (min s.maxWorkers available) := by
  unfold workersFor
  split <;> omega

theorem workersFor_of_lt {s : Settings} {orders : Nat} (h : orders < s.parallelThreshold) (available : Nat) :
    s.workersFor available orders = 1 :=
  if_pos (by omega)

/-! ## The environment -/

def workersVariable : String := "ORDERBILL_MAX_WORKERS"

def thresholdVariable : String := "ORDERBILL_PARALLEL_THRESHOLD"

def diagnosticsVariable : String := "ORDERBILL_COLLECT_DIAGNOSTICS"

def countBound : Nat := twoTo 64

def countOfText (s : String) : Option Nat := readNatBelow countBound s.toList

def flagOfText (s : String) : Option Bool :=
  if s = "true" then some true else if s = "false" then some false else none

/-- What a variable is set to, blanks around it aside, unless it cannot be read. -/
def setting? {α : Type} (environment : List (String × String)) (name : String) (read : String → Option α) :
    Option α :=
  environment.lookup name >>= fun s => read (Text.trim s)

def ofEnvironment (base : Settings) (environment : List (String × String)) : Settings where
  maxWorkers := (setting? environment workersVariable countOfText).getD base.maxWorkers
  parallelThreshold := (setting? environment thresholdVariable countOfText).getD base.parallelThreshold
  collectDiagnostics := (setting? environment diagnosticsVariable flagOfText).getD base.collectDiagnostics

def read (v : Json.Value) : Json.Reading Settings := do
  let src ← Json.Source.of "EngineConfig" ["max_workers", "parallel_threshold", "collect_diagnostics"] 3 v
  let maxWorkers := src.slot "max_workers" Json.readCount
  let parallelThreshold := src.slot "parallel_threshold" Json.readCount
  let collectDiagnostics := src.slot "collect_diagnostics" Json.readFlag
  src.check [maxWorkers.fault, parallelThreshold.fault, collectDiagnostics.fault] false
  return {
    maxWorkers := ← maxWorkers.required
    parallelThreshold := ← parallelThreshold.required
    collectDiagnostics := ← collectDiagnostics.required }

end Settings

end Tariff
