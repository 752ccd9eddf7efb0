import PixelMath.Engine.Partition
import PixelMath.Pixel
import PixelMath.Program.Compile

/-!
# The engine

The engine runs a program on every pixel of a buffer. The buffer is divided into partitions that
workers may finish in any order; each partition has variables and random samples of its own. All
checks come before the first value is written.

## Main definitions

* `Config` — the settings of an engine.
* `Host` — the machine it runs on, with its workers, the order in which they finish, and its
  entropy.
* `EngineError` — why a buffer cannot be worked on.
* `Engine.runStrided`, `Engine.run`, `Engine.apply`, `Engine.applyDefault` — the ways to work on a
  buffer.
-/

namespace PixelMath

/-- One more than the largest size of a buffer, which is counted in words of 64 bits. -/
def sizeLimit : Nat := UInt64.size

/-- The settings of an engine. -/
structure Config where
  /-- The number of workers; zero stands for every worker of the machine. -/
  threads : Nat := 0
  /-- The smallest number of pixels that is worth a worker. -/
  minPartitionPixels : Nat := 4096
  /-- The seed of random samples, or none for samples that differ from run to run. -/
  seed? : Option UInt64 := none
deriving DecidableEq, Repr

/-- The machine an engine runs on. -/
structure Host where
  /-- The number of workers of the machine. -/
  workers : Nat := 1
  /-- The order in which a number of partitions is worked on. -/
  schedule : Nat → List Nat := List.range
  /-- Every partition is worked on once. -/
  perm_schedule : ∀ n, (schedule n).Perm (List.range n) := by exact fun _ => .refl _
  /-- The keys of partitions without a seed. -/
  entropy : Nat → Sample.Key := fun _ => Sample.Key.ofSeed 0

/-- Why a buffer cannot be worked on. -/
inductive EngineError where
  /-- The program does not fit. -/
  | compile (e : CompileError)
  /-- The buffer has `actual` values where `expected` were announced. -/
  | precondition (expected actual : Nat)
  /-- The announced number of values is past the largest size of a buffer. -/
  | sizeOverflow (pixels channels : Nat)
deriving DecidableEq, Repr

namespace EngineError

/-- The text of the error. -/
def message : EngineError → String
  | compile e => s!"compile error: {e.message}"
  | precondition expected actual =>
    s!"buffer length mismatch: expected {expected} values, got {actual}"
  | sizeOverflow pixels channels =>
    s!"buffer size overflow: {pixels} pixels x {channels} channels"

/-- Whether the program is at fault. -/
def isCompileError : EngineError → Bool
  | compile _ => true
  | _ => false

/-- Whether the buffer is at fault. -/
def isPreconditionError : EngineError → Bool
  | compile _ => false
  | precondition .. | sizeOverflow .. => true

end EngineError

/-- What a run reports. -/
structure RunStats where
  pixels : Nat
  partitions : Nat
deriving DecidableEq, Repr

/-- The report of a run and the buffer that it leaves. -/
structure RunResult where
  outcome : Except EngineError RunStats
  buffer : List Float

namespace Config

/-- The number of workers on a machine. -/
def workers (c : Config) (host : Host) : Nat :=
  if c.threads = 0 then host.workers else c.threads

/-- The workers kept for the engine alone, if it has any. -/
def dedicatedThreads? (c : Config) : Option Nat :=
  if c.threads = 0 then none else some c.threads

/-- The settings with a smallest partition of at least one pixel. -/
def withMinPartitionPixels (c : Config) (pixels : Nat) : Config :=
  { c with minPartitionPixels := max pixels 1 }

/-- The samples of a partition. With a seed, partition `i` has the samples of the seed `i` places
further on. -/
def samples (c : Config) (host : Host) (partition : Nat) : Sample.Stream :=
  Sample.stream <|
    match c.seed? with
    | some seed => Sample.Key.ofSeed (seed + UInt64.ofNat partition)
    | none => host.entropy partition

end Config

namespace Engine

/-- Carries out `work i` on chunk `i`, in the given order. -/
def execute (order : List Nat) (work : Nat → List Float → List Float)
    (chunks : Array (List Float)) : Array (List Float) :=
  order.foldl (fun cs i => cs.modify i (work i)) chunks

/-- The values that a program makes of the values of a partition. -/
def runPartition (c : Config) (host : Host) (p : Program) (stride partition : Nat)
    (values : List Float) : List Float :=
  ((p.runPixels (c.samples host partition) stride values).run {}).1

/-- The partitions for a number of pixels. -/
def plan (c : Config) (host : Host) (pixels : Nat) : Partitioning :=
  Partitioning.plan pixels (c.workers host) c.minPartitionPixels

/-- The buffer after all partitions have been worked on. -/
def process (c : Config) (host : Host) (p : Program) (stride : Nat) (plan : Partitioning)
    (buffer : List Float) : List Float :=
  let chunks := (groups (plan.chunkLength stride) buffer).toArray
  (execute (host.schedule chunks.size) (runPartition c host p stride) chunks).toList.flatten

/-- Runs a program on every pixel of a buffer whose pixels are declared to have `stride`
channels. -/
def runStrided (c : Config) (host : Host) (p : Program) (stride : Nat) (buffer : List Float) :
    RunResult :=
  match requireStride p.format stride with
  | .error e => { outcome := .error (.compile e), buffer }
  | .ok () =>
    let pixels := buffer.length / stride
    if buffer.length % stride ≠ 0 then
      { outcome := .error (.precondition (pixels * stride) buffer.length), buffer }
    else if pixels = 0 ∨ p.isEmpty then
      { outcome := .ok { pixels, partitions := 0 }, buffer }
    else
      let plan := plan c host pixels
      { outcome := .ok { pixels, partitions := plan.partitions }
        buffer := process c host p stride plan buffer }

/-- Runs a program on every pixel of a buffer in the program's format. -/
def run (c : Config) (host : Host) (p : Program) (buffer : List Float) : RunResult :=
  runStrided c host p p.format.channels buffer

/-- Fails unless a buffer of `length` values holds `pixels` pixels of `channels` channels. -/
def checkBuffer (channels length pixels : Nat) : Except EngineError Unit :=
  let expected := pixels * channels
  if sizeLimit ≤ expected then .error (.sizeOverflow pixels channels)
  else if length ≠ expected then .error (.precondition expected length)
  else .ok ()

/-- Compiles a text and runs it on a buffer of `pixels` pixels. The buffer is checked before the
text is compiled. -/
def apply (c : Config) (host : Host) (f : PixelFormat) (source : String) (pixels : Nat)
    (buffer : List Float) : RunResult :=
  match checkBuffer f.channels buffer.length pixels with
  | .error e => { outcome := .error e, buffer }
  | .ok () =>
    match compile f source with
    | .error e => { outcome := .error (.compile e), buffer }
    | .ok p => run c host p buffer

/-- Compiles a text and runs it with the settings that an engine has at first. A run that succeeds
leaves no report but its buffer. -/
def applyDefault (host : Host) (f : PixelFormat) (source : String) (pixels : Nat)
    (buffer : List Float) : Except EngineError Unit × List Float :=
  let r := apply {} host f source pixels buffer
  (r.outcome.map fun _ => (), r.buffer)

end Engine

end PixelMath
