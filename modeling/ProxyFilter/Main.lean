import ProxyFilter.Replay.Run
import Std.Time.DateTime.Timestamp

/-!
# The replay program

Reads the files that the arguments name, takes the clock, and prints the report of the replay.
-/

open ProxyFilter

/-- The octets of a file, if it can be read. -/
def octetsOf? (file : String) : IO (Option Bytes) := do
  try
    return some (← IO.FS.readBinFile file).toList
  catch _ => return none

/-- The moment on the clock. -/
def clockNow : IO Instant := do
  let now ← Std.Time.Timestamp.now
  let nanos := now.toNanosecondsSinceUnixEpoch.toInt
  return ⟨nanos / 1000000000, (nanos % 1000000000).toNat⟩

/-- What the arguments ask for. -/
def outcomeOf (args : List String) : IO Replay.Outcome := do
  match Replay.Command.parse? args with
  | none => return .refused
  | some .help => return .help
  | some .version => return .version
  | some (.replay options) =>
    let settings ← octetsOf? options.settings
    let body ← match options.body with
      | some file => octetsOf? file
      | none => pure (some [])
    return Replay.run options (← clockNow) settings body

/-- Prints what the arguments ask for. -/
def main (args : List String) : IO UInt32 := do
  let outcome ← outcomeOf args
  let out ← IO.getStdout
  out.putStr outcome.report
  out.flush
  return UInt32.ofNat outcome.exitCode
