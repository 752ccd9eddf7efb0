import PixelMath.Groups
import PixelMath.Program.Basic
import PixelMath.Sample.Stream

/-!
# Running a program on pixels

The instructions of a program are carried out in order on the channels of one pixel. The scratch
variables are zero when a pixel begins; random samples are taken one after the other from a stream
that goes on from pixel to pixel.

## Main definitions

* `Carry` — what is left behind by a pixel, its variables and the number of samples taken so far.
* `Cell` — a pixel at work; `Cell.step` carries out an instruction.
* `Program.runPixel` — a program on one pixel.
* `Program.runPixels` — a program on the whole pixels of a run of values.
-/

namespace PixelMath

/-- The scratch variables of a pixel. -/
abbrev Scratch : Type := Vector Float scratchCount

/-- Scratch variables as a pixel finds them. -/
def Scratch.zero : Scratch := Vector.replicate scratchCount 0

/-- What a pixel leaves behind: its variables and the number of samples taken so far. -/
structure Carry where
  scratch : Scratch := Scratch.zero
  drawn : Nat := 0
deriving DecidableEq, Repr

/-- A pixel at work. -/
structure Cell extends Carry where
  channels : List Float
deriving DecidableEq, Repr

namespace Cell

/-- The value in a slot. A compiled program names no channel that its pixels lack, so the zero for
such a channel is never read. -/
def read (c : Cell) : Slot → Float
  | .channel i => c.channels.getD i 0
  | .scratch i => c.scratch.get i

/-- Puts a value into a slot. -/
def write (c : Cell) (x : Float) : Slot → Cell
  | .channel i => { c with channels := c.channels.set i x }
  | .scratch i => { c with scratch := c.scratch.set i x }

/-- The value of an operand; a random one is the first sample that has not been taken. -/
def value (samples : Sample.Stream) (c : Cell) : Operand → Float
  | .slot s => c.read s
  | .literal x => x
  | .constant .pi => 3.141592653589793
  | .constant .e => 2.718281828459045
  | .constant .rand => samples c.drawn

/-- Carries out an instruction. Reading a random operand takes a sample. -/
def step (samples : Sample.Stream) (c : Cell) (i : Instruction) : Cell :=
  let x := i.operator.apply (c.read i.target) (c.value samples i.operand)
  let c := { c with drawn := if i.operand.isRandom then c.drawn + 1 else c.drawn }
  c.write x i.target

@[simp] theorem length_write (c : Cell) (x : Float) (s : Slot) :
    (c.write x s).channels.length = c.channels.length := by
  cases s with
  | channel i => exact List.length_set
  | scratch i => rfl

@[simp] theorem drawn_write (c : Cell) (x : Float) (s : Slot) : (c.write x s).drawn = c.drawn := by
  cases s <;> rfl

@[simp] theorem length_step (samples : Sample.Stream) (c : Cell) (i : Instruction) :
    (c.step samples i).channels.length = c.channels.length :=
  length_write _ _ _

/-- An instruction takes a sample exactly if its operand is random. -/
theorem drawn_step (samples : Sample.Stream) (c : Cell) (i : Instruction) :
    (c.step samples i).drawn = if i.operand.isRandom then c.drawn + 1 else c.drawn :=
  drawn_write _ _ _

theorem length_foldl_step (samples : Sample.Stream) (is : List Instruction) (c : Cell) :
    (is.foldl (Cell.step samples) c).channels.length = c.channels.length := by
  induction is generalizing c with
  | nil => rfl
  | cons i is ih => rw [List.foldl_cons, ih, length_step]

end Cell

namespace Program

/-- Runs the program on one pixel. Values behind the channels of the format stay as they are. -/
def runPixel (p : Program) (samples : Sample.Stream) (pixel : List Float) :
    StateM Carry (List Float) := fun carry =>
  let cell := p.instructions.foldl (Cell.step samples)
    { channels := pixel, drawn := carry.drawn }
  (cell.channels, cell.toCarry)

theorem length_runPixel (p : Program) (samples : Sample.Stream) (pixel : List Float)
    (carry : Carry) : (p.runPixel samples pixel carry).1.length = pixel.length :=
  Cell.length_foldl_step _ _ _

/-- Runs the program on every whole group of `stride` values; an incomplete group at the end stays
as it is. -/
def runPixels (p : Program) (samples : Sample.Stream) (stride : Nat) (values : List Float) :
    StateM Carry (List Float) := do
  let pixels ← (wholeGroups stride values).mapM (p.runPixel samples)
  return pixels.flatten ++ leftover stride values

end Program

end PixelMath
