/-
  Tariff.Main — the command line program.

  Reads the environment and the input file, runs the command, and prints or writes what it
  produced. Billing takes place on one thread.
-/
import Std.Time.DateTime
import Tariff.Command

namespace Tariff.Main

def environment : IO (List (String × String)) := do
  let names := [Settings.workersVariable, Settings.thresholdVariable, Settings.diagnosticsVariable]
  names.filterMapM fun name => do return (← IO.getEnv name).map fun value => (name, value)

def now : IO Instant := do
  let t := Std.Time.PlainDateTime.ofWallTime
    (Std.Time.WallTime.ofTimestamp (← Std.Time.Timestamp.now) Std.Time.TimeZone.Offset.zero)
  let date := (Date.of? t.year.toInt t.month.val.toNat t.day.val.toNat).getD Instant.epoch.date
  return { date, hour := t.hour.val.toNat, minute := t.minute.val.toNat, second := t.second.val.toNat,
           nanosecond := t.nanosecond.val.toNat }

def contentOf (path : String) : IO (Option String) := do
  try return some (← IO.FS.readFile path) catch _ => return none

def complain (f : Command.Failure) : IO UInt32 := do
  IO.eprintln ("Error: " ++ f.message)
  return Command.failureExit.toUInt32

def produce (o : Command.Output) : IO UInt32 := do
  match o.path with
  | none => IO.print o.text
  | some path =>
    try IO.FS.writeFile path o.text catch _ => return ← complain (.unwritable path)
  o.metrics.forM IO.eprintln
  return 0

end Tariff.Main

def main (arguments : List String) : IO UInt32 := do
  let environment ← Tariff.Main.environment
  match Tariff.Command.Invocation.ofArguments environment arguments with
  | none =>
    IO.eprint Tariff.Command.usageText
    return Tariff.Command.usageExit.toUInt32
  | some invocation =>
    let content ← match invocation.input? with
      | some path => Tariff.Main.contentOf path
      | none => pure none
    let world : Tariff.Command.World := { environment, available := 1, now := ← Tariff.Main.now }
    match Tariff.Command.run world invocation content with
    | .ok output => Tariff.Main.produce output
    | .error failure => Tariff.Main.complain failure
