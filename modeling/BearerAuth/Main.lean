import BearerAuth.CommandLine.Run
import Std.Time.DateTime.Timestamp

/-! # The command line tool

Gathers what a run needs from outside, and carries out its report.
-/

namespace BearerAuth.CommandLine

open BearerAuth.Time

/-- The reading of the system clock. -/
def systemClock : IO Instant := do
  let reading ← Std.Time.Timestamp.now
  return (Instant.ofNanos? reading.toNanosecondsSinceUnixEpoch.toInt).getD .epoch

/-- Why a file could not be read. -/
def fileTrouble : IO.Error → String
  | .noFileOrDirectory .. => "No such file or directory (os error 2)"
  | .permissionDenied .. => "Permission denied (os error 13)"
  | .inappropriateType .. => "Is a directory (os error 21)"
  | e => e.toString

/-- What a file holds, or why it cannot be read. -/
def readConfigFile (path : String) : IO (Except String (List UInt8)) := do
  try
    return .ok (← IO.FS.readBinFile path).toList
  catch e => return .error (fileTrouble e)

/-- The variables that a configuration refers to or may come from. -/
def readEnvironment (names : List String) : IO Config.Environment := do
  let entries ← names.filterMapM fun name => do return (← IO.getEnv name).map (name, ·)
  return .ofEntries entries

end BearerAuth.CommandLine

open BearerAuth BearerAuth.CommandLine in
/-- Runs the tool. Cache servers are out of its reach, so a configuration with one does not pass. -/
def main (args : List String) : IO UInt32 := do
  let preset ← IO.getEnv configVariable
  let file ← match parse args (preset.map some) with
    | .ok ⟨some path, _⟩ => readConfigFile path
    | _ => pure (.error "")
  let names := Config.variableNames.map (Config.variableStart ++ ·) ++ match file with
    | .ok bytes => Config.references ((Text.ofUtf8? bytes).getD "")
    | .error _ => []
  let draws ← (List.replicate 2 ()).mapM fun _ => do return (← IO.getRandomBytes 16).toList
  let report := run args (preset.map some) {
    env := ← readEnvironment names
    file
    now := ← systemClock
    draw := fun n => draws.getD n []
    connect := fun server => .error (.backend ("no connection to " ++ server.url)) }
  IO.print report.output
  IO.eprint report.notices
  return UInt32.ofNat report.exitCode
