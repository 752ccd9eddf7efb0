import PixelMath.Command.Execute

/-!
# The command

The outer layer: it fetches the arguments, the files and the entropy, and carries out what a
command decides.
-/

namespace PixelMath

open Command

/-- The error with a number that the operating system gives, either as it is or negated in 32 bits.
Unknown errors are described by `details`. -/
def fileErrorOfCode (code : UInt32) (details : String) : FileError :=
  let number := if code < 0x80000000 then code.toNat else (0 - code).toNat
  let known : List FileError :=
    [.notFound, .notDirectory, .isDirectory, .nameTooLong, .noSpace]
  (known.find? (·.code = number)).getD ⟨details, number⟩

/-- The operating system's error as commands report it. -/
def fileErrorOf : IO.Error → FileError
  | .noFileOrDirectory .. => .notFound
  | .permissionDenied _ code details | .inappropriateType _ code details
  | .invalidArgument _ code details | .resourceExhausted _ code details =>
    fileErrorOfCode code details
  | e => ⟨toString e, 5⟩

/-- The paths that a request reads. -/
def pathsOf : Request → List String
  | .run input _ _ _ (.file program) => [program, input]
  | .run input _ _ _ (.inline _) => [input]
  | .check _ (.file program) => [program]
  | .check _ (.inline _) | .preset .. | .formats => []

/-- What is found under a path. -/
def fetch (path : String) : IO (Except FileError ByteArray) := do
  try
    return .ok (← IO.FS.readBinFile path)
  catch e =>
    return .error (fileErrorOf e)

/-- Writes bytes to an open file. Of a file that does not take them all it is not known how many it
took, so it counts as one without room. -/
def fill (handle : IO.FS.Handle) (bytes : ByteArray) : IO Sink := do
  try
    handle.write bytes
    handle.flush
    return .unlimited
  catch e =>
    return .limited 0 (fileErrorOf e)

/-- Opens the file under a path and writes bytes to it. -/
def store (path : String) (bytes : ByteArray) : IO (Except FileError Sink) := do
  try
    let handle ← IO.FS.Handle.mk path .write
    return .ok (← fill handle bytes)
  catch e =>
    return .error (fileErrorOf e)

/-- A machine whose samples start from fresh entropy. -/
def freshHost : IO Host := do
  let bytes ← IO.getRandomBytes 8
  let seed := RawBuffer.ofBytes bytes.data.toList
  return { entropy := fun i => Sample.Key.ofSeed (seed + UInt64.ofNat i) }

/-- Carries out an invocation on the files of the machine. -/
def perform (inv : Invocation) : IO Outcome := do
  let host ← freshHost
  let fetched ← (pathsOf inv.request).mapM fun path => return (path, ← fetch path)
  let read := fun path => (fetched.lookup path).getD (.error .notFound)
  let outcome := execute host { read, create := fun _ => .ok .unlimited } inv
  match outcome.written? with
  | none => return outcome
  | some (path, bytes) =>
    match ← store path bytes with
    | .ok .unlimited => return outcome
    | created => return execute host { read, create := fun _ => created } inv

end PixelMath

open PixelMath Command in
/-- Carries out a command line. -/
def main (arguments : List String) : IO UInt32 := do
  let outcome ←
    match Invocation.ofArguments? arguments with
    | none => pure Outcome.usageError
    | some inv => perform inv
  (← IO.getStdout).putStr outcome.stdout
  (← IO.getStderr).putStr outcome.stderr
  return UInt32.ofNat outcome.exitCode
