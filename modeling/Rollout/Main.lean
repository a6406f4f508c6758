import Std.Time.Format
import Rollout.CommandLine.Run

/-
The program: takes the environment and the file that the arguments name, runs the command
line and writes what the run leaves behind.
-/
namespace Rollout
namespace Main

/-- The variables that settings are read from, as far as they are set. -/
def environment : IO Settings.Environment := do
  let names := Settings.thresholdVariable :: Settings.orphansVariable
    :: [Dimension.cpu, .memory, .disk].map Settings.limitVariable
  names.filterMapM fun name => do
    return (← IO.getEnv name).map fun value => (name, value)

/-- Why a file could not be read. -/
def readFault (path : String) : IO.Error → Source.ReadFault
  | .inappropriateType .. => .isDirectory
  | .permissionDenied .. => .notPermitted path
  | _ => .notFound path

def readFile (path : String) : IO (Except Source.ReadFault Source.Bytes) := do
  if let some fault := Source.pathFault? path then
    return .error fault
  try
    return .ok ((← IO.FS.readBinFile path).toList.map UInt8.toNat)
  catch e =>
    return .error (readFault path e)

/-- The file that the arguments name, if they are in order. Whether it is one to load is
left to the run. -/
def contents (argv : List String) : IO (Except Source.ReadFault Source.Bytes) :=
  match CommandLine.Arguments.parse argv with
  | .ok a => readFile a.file
  | .error _ => pure (.ok [])

/-- The present time in UTC, to the millisecond. -/
def time : IO String := do
  let now ← Std.Time.Timestamp.now
  return (Std.Time.DateTime.ofTimestamp now .UTC).format "uuuu-MM-dd'T'HH:mm:ss.SSS'Z'"

end Main
end Rollout

open Rollout in
def main (argv : List String) : IO UInt32 := do
  let bytes ← Main.contents argv
  let run := CommandLine.run (fun _ => bytes) (← Main.environment) argv
  let time ← Main.time
  for piece in run.output do
    IO.print piece
  for notice in run.notices do
    IO.eprint (notice.text time)
  return UInt32.ofNat run.status
