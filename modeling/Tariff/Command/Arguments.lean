/-
  Tariff.Command.Arguments — command lines.

  A subcommand is followed by its options. An option has a long name and may have a
  letter; its value stands behind it, behind an equals sign, or right behind the letter. A
  value of its own must not look like an option. No option may be given twice, except one
  that gathers its values.
-/
import Tariff.Date
import Tariff.Settings
import Tariff.Text

namespace Tariff.Command

inductive Format where
  | json
  | csv
  deriving DecidableEq, Repr

def Format.ofText? (s : String) : Option Format :=
  if s = "json" then some .json else if s = "csv" then some .csv else none

structure ReportArguments where
  input : String
  customer : String
  start : Date
  stop : Date
  services : Option (List String)
  format : Format
  output : Option String
  workers : Option Nat
  metrics : Bool
  deriving DecidableEq, Repr

inductive Invocation where
  | report (a : ReportArguments)
  | validate (input : String)
  | help
  | version
  deriving DecidableEq, Repr

structure OptionSpec where
  name : String
  letter : Option Char
  takesValue : Bool
  gathers : Bool
  /-- The values that it takes. -/
  accepts : String → Bool

structure Given where
  spec : OptionSpec
  value : String

def Given.acceptable (g : Given) : Bool := !g.spec.takesValue || g.spec.accepts g.value

/-- What a scan found: the options up to the end or up to a request for help. -/
structure Found where
  given : List Given
  help : Bool

namespace Found

def ended : Found := ⟨[], false⟩

def helped : Found := ⟨[], true⟩

def add (g : Given) (f : Found) : Found := { f with given := g :: f.given }

end Found

/-- An argument that starts an option or ends them. A single hyphen does neither. -/
def looksLikeOption (s : String) : Bool :=
  match s.toList with
  | '-' :: _ :: _ => true
  | _ => false

/-- The option that an argument names, and the value it carries. -/
inductive Named where
  | none
  | help
  | option (spec : OptionSpec) (value : Option String)

def nameLong (specs : List OptionSpec) (cs : List Char) : Named :=
  let (name, value) := match Text.splitFirst '=' cs with
    | some (name, value) => (String.ofList name, some (String.ofList value))
    | none => (String.ofList cs, Option.none)
  if name = "help" && value.isNone then .help
  else match specs.find? (·.name == name) with
    | some spec => .option spec value
    | none => .none

def nameShort (specs : List OptionSpec) : List Char → Named
  | [] => .none
  | 'h' :: _ => .help
  | letter :: rest =>
    match specs.find? (·.letter == some letter) with
    | some spec =>
      .option spec (match rest with
        | [] => Option.none
        | '=' :: value => some (String.ofList value)
        | value => some (String.ofList value))
    | none => .none

def nameOf (specs : List OptionSpec) (argument : String) : Named :=
  match argument.toList with
  | '-' :: '-' :: cs => nameLong specs cs
  | '-' :: cs => nameShort specs cs
  | _ => .none

/-- Scans the arguments of a subcommand. `none` is an argument that fits nowhere. -/
def scan (specs : List OptionSpec) : List String → Option Found
  | [] => some .ended
  | argument :: rest =>
    if argument = "--" then (if rest.isEmpty then some .ended else none)
    else match nameOf specs argument with
      | .none => none
      | .help => some .helped
      | .option spec value =>
        if !spec.takesValue then
          if value.isNone then (scan specs rest).map (.add ⟨spec, ""⟩) else none
        else match value, rest with
          | some value, rest => (scan specs rest).map (.add ⟨spec, value⟩)
          | none, value :: rest =>
            if looksLikeOption value then none else (scan specs rest).map (.add ⟨spec, value⟩)
          | none, [] => none

/-- An option that was given twice and does not gather. -/
def repeats : List Given → Bool
  | [] => false
  | g :: rest => (!g.spec.gathers && rest.any (·.spec.name == g.spec.name)) || repeats rest

def collect (specs : List OptionSpec) (arguments : List String) : Option Found := do
  let f ← scan specs arguments
  if f.given.all (·.acceptable) && !repeats f.given then some f else none

namespace Found

def value? (f : Found) (name : String) : Option String :=
  (f.given.find? (·.spec.name == name)).map (·.value)

def values (f : Found) (name : String) : List String :=
  (f.given.filter (·.spec.name == name)).map (·.value)

end Found

def nonEmpty (s : String) : Bool := s ≠ ""

def inputOption : OptionSpec := ⟨"input", some 'i', true, false, nonEmpty⟩

def isDate (s : String) : Bool := (Date.ofText s).toOption.isSome

def reportOptions : List OptionSpec :=
  [inputOption, ⟨"customer", some 'c', true, false, fun _ => true⟩, ⟨"from", none, true, false, isDate⟩,
    ⟨"to", none, true, false, isDate⟩, ⟨"services", none, true, true, fun _ => true⟩,
    ⟨"format", some 'f', true, false, fun s => (Format.ofText? s).isSome⟩,
    ⟨"output", some 'o', true, false, nonEmpty⟩,
    ⟨"workers", none, true, false, fun s => (Settings.countOfText s).isSome⟩,
    ⟨"metrics", none, false, false, fun _ => true⟩]

/-- The number of workers: that of the option, or else that of the environment, which has
    to be a number then. -/
def workersOf (environment : List (String × String)) (f : Found) : Option (Option Nat) :=
  match (f.value? "workers").or (environment.lookup Settings.workersVariable) with
  | none => some none
  | some s => (Settings.countOfText s).map some

def servicesOf (f : Found) : Option (List String) :=
  match f.values "services" with
  | [] => none
  | lists => some (lists.flatMap fun s => (Text.splitEvery ',' s.toList).map String.ofList)

def reportOf (environment : List (String × String)) (f : Found) : Option ReportArguments := do
  return {
    input := ← f.value? "input"
    customer := ← f.value? "customer"
    start := ← (← f.value? "from") |> Date.ofText |>.toOption
    stop := ← (← f.value? "to") |> Date.ofText |>.toOption
    services := servicesOf f
    format := ((f.value? "format") >>= Format.ofText?).getD .json
    output := f.value? "output"
    workers := ← workersOf environment f
    metrics := (f.value? "metrics").isSome }

/-- An argument that starts with a hyphen and `letter`. What is attached to it is not read. -/
def startsCluster (letter : Char) (s : String) : Bool :=
  match s.toList with
  | '-' :: c :: _ => c == letter
  | _ => false

def isTopic (s : String) : Bool := s = "report" || s = "validate" || s = "help"

def Invocation.ofArguments (environment : List (String × String)) : List String → Option Invocation
  | "report" :: rest => do
    let f ← collect reportOptions rest
    if f.help then return .help else return .report (← reportOf environment f)
  | "validate" :: rest => do
    let f ← collect [inputOption] rest
    if f.help then return .help else return .validate (← f.value? "input")
  | "help" :: topics => if topics.length ≤ 1 && topics.all isTopic then some .help else none
  | argument :: _ =>
    if argument = "--help" || startsCluster 'h' argument then some .help
    else if argument = "--version" || startsCluster 'V' argument then some .version
    else none
  | [] => none

end Tariff.Command
