import Mathlib.Data.List.GetD
import PixelMath.Proofs.Pixel

/-!
# Pixels with further channels

An instruction touches nothing but its own slots. So channels behind those that a program names are
neither read nor written: they can be set aside before the run and put back after it.

## Main definitions

* `Cell.widen` — a cell with further channels behind its own.

## Main results

* `Cell.step_widen` — an instruction on a wider cell.
* `Program.runPixel_append` — a program on a wider pixel.
-/

namespace PixelMath

namespace Cell

variable {c : Cell} {i : Instruction} (extra : List Float) (samples : Sample.Stream)

/-- The cell with further channels behind its own. -/
def widen (c : Cell) (extra : List Float) : Cell :=
  { c with channels := c.channels ++ extra }

theorem read_widen {s : Slot} (hs : s.Fits c.channels.length) :
    (c.widen extra).read s = c.read s := by
  cases s with
  | channel i => exact List.getD_append _ _ _ _ hs
  | scratch i => rfl

theorem write_widen {s : Slot} (hs : s.Fits c.channels.length) (x : Float) :
    (c.widen extra).write x s = (c.write x s).widen extra := by
  cases s with
  | channel i => exact congrArg (Cell.mk c.toCarry) (List.set_append_left _ _ hs)
  | scratch i => rfl

theorem value_widen {o : Operand} (ho : o.Fits c.channels.length) :
    (c.widen extra).value samples o = c.value samples o := by
  cases o with
  | slot s => exact read_widen extra ho
  | literal x => rfl
  | constant k => cases k <;> rfl

/-- An instruction leaves further channels alone and does not see them. -/
theorem step_widen (hi : i.Fits c.channels.length) :
    (c.widen extra).step samples i = (c.step samples i).widen extra := by
  rw [step_eq, step_eq, read_widen extra hi.1, value_widen extra samples hi.2,
    write_widen extra hi.1]
  rfl

theorem foldl_step_widen {is : List Instruction} (his : ∀ i ∈ is, i.Fits c.channels.length) :
    is.foldl (step samples) (c.widen extra) = (is.foldl (step samples) c).widen extra := by
  induction is generalizing c with
  | nil => rfl
  | cons i is ih =>
    rw [List.foldl_cons, List.foldl_cons, step_widen extra samples (his i List.mem_cons_self), ih]
    intro j hj
    rw [length_step]
    exact his j (List.mem_cons_of_mem _ hj)

end Cell

namespace Program

variable {p q : Program} {pixel : List Float} (samples : Sample.Stream) (carry : Carry)

/-- **A program on a wider pixel.** Where every channel of the program is one of the pixel, further
values behind the pixel stay as they are and change nothing. -/
theorem runPixel_append (hp : ∀ i ∈ p.instructions, i.Fits pixel.length) (extra : List Float) :
    p.runPixel samples (pixel ++ extra) carry =
      ((p.runPixel samples pixel carry).1 ++ extra, (p.runPixel samples pixel carry).2) := by
  have h := Cell.foldl_step_widen (c := { channels := pixel, drawn := carry.drawn }) extra samples
    hp
  simp only [Cell.widen] at h
  simp only [runPixel, h]

/-- Of a program, only the instructions matter on a pixel. -/
theorem runPixel_congr (h : q.instructions = p.instructions) : q.runPixel = p.runPixel := by
  unfold runPixel
  rw [h]

end Program

end PixelMath
