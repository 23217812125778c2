import RootCause.Command.Program
import RootCause.Command.RunId
import RootCause.Time.Unix
import Std.Time.DateTime.Timestamp

/-!
The program on the files, the clock and the environment of its process.
-/

namespace RootCause

def readErrorOf : IO.Error → ReadError
  | .noFileOrDirectory .. => .notFound
  | .inappropriateType .. => .isDirectory
  | _ => .failed

/-- The files of the machine. -/
def machineDisk : Disk IO where
  readBytes path := do
    try
      return .ok (← IO.FS.readBinFile path)
    catch e =>
      return .error (readErrorOf e)
  create path := do
    try
      IO.FS.writeBinFile path .empty
      return true
    catch _ =>
      return false

def numberOfBytes (bytes : ByteArray) : Nat := bytes.toList.foldl (fun n b => 256 * n + b.toNat) 0

/-- A stamp of the present moment, which stands for all of a run. -/
def presentStamp : IO RunStamp := do
  let now ← Std.Time.Timestamp.now
  let nanoseconds := now.toNanosecondsSinceUnixEpoch.toInt
  let random := numberOfBytes (← IO.getRandomBytes 10)
  let instant := Instant.ofUnix? (nanoseconds / 1000000000) (nanoseconds % 1000000000).toNat
  return ⟨runIdText (nanoseconds / 1000000).toNat random, fun _ => instant.getD .epoch⟩

def processEnvironment : IO Environment := do
  let home ← IO.getEnv "HOME"
  return ⟨home.filter fun h => !h.isEmpty, ← IO.getEnv "DROPSCOPE_DATA_DIR"⟩

/-- Runs the program and prints what it leaves. -/
def runProgram (arguments : List String) : IO UInt32 := do
  let output ← program machineDisk (← processEnvironment) (← presentStamp) arguments
  for warning in output.warning.toList do
    IO.eprintln s!"WARN {warning.message} the configuration, using defaults"
  for line in output.lines do
    IO.println line
  if output.code == 2 then
    for line in usageLines do
      IO.eprintln line
  for line in output.errorLines do
    IO.eprintln line
  return output.code

end RootCause

def main (arguments : List String) : IO UInt32 := RootCause.runProgram arguments
