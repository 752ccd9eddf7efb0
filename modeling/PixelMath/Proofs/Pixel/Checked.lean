import Mathlib.Data.List.GetD
import PixelMath.Proofs.Checked
import PixelMath.Proofs.Groups
import PixelMath.Proofs.Pixel

/-!
# Pixels whose accesses are checked

A pixel at work reads and writes its channels and its variables by number. Here every such access
looks at the number first. An instruction passes if the pixel has its slots, and then it does what
it does without the look, so a program can run on a pixel that has every channel that the program
names.

## Main definitions

* `Cell.checkedRead`, `Cell.checkedWrite`, `Cell.checkedStep` — an instruction whose accesses are
  checked.
* `Program.checkedRunPixel`, `Program.checkedRunPixels` — a program whose accesses are checked.

## Main results

* `Cell.checkedStep_of_fits` — the checks of an instruction.
* `Program.checkedRunPixel_of_fits` — a program on a pixel that has its channels.
* `Program.checkedRunPixels_eq` — a program on the whole pixels of a run of values.
-/

namespace PixelMath

namespace Cell

/-- The value in a slot. -/
def checkedRead (c : Cell) : Slot → Except Fault Float
  | .channel i => checkedGet c.channels i
  | .scratch i => checkedGet c.scratch.toList i

/-- Puts a value into a slot that can be read. -/
def checkedWrite (c : Cell) (x : Float) (s : Slot) : Except Fault Cell := do
  let _ ← c.checkedRead s
  return c.write x s

/-- The value of an operand. -/
def checkedValue (samples : Sample.Stream) (c : Cell) : Operand → Except Fault Float
  | .slot s => c.checkedRead s
  | o => return c.value samples o

/-- Carries out an instruction. -/
def checkedStep (samples : Sample.Stream) (c : Cell) (i : Instruction) : Except Fault Cell := do
  let operand ← c.checkedValue samples i.operand
  let target ← c.checkedRead i.target
  let c := c.setDrawn (if i.operand.isRandom then c.drawn + 1 else c.drawn)
  c.checkedWrite (i.operator.apply target operand) i.target

variable {c : Cell} {s : Slot} {i : Instruction} (samples : Sample.Stream)

theorem checkedRead_of_fits (hs : s.Fits c.channels.length) : c.checkedRead s = .ok (c.read s) := by
  cases s with
  | channel i =>
    exact (checkedGet_eq hs).trans (congrArg _ (List.getD_eq_getElem _ _ hs).symm)
  | scratch i =>
    have hi : i.val < c.scratch.toList.length := i.isLt.trans_eq Vector.length_toList.symm
    refine (checkedGet_eq hi).trans (congrArg _ ?_)
    rw [Vector.getElem_toList]
    rfl

theorem checkedWrite_of_fits (hs : s.Fits c.channels.length) (x : Float) :
    c.checkedWrite x s = .ok (c.write x s) := by
  rw [checkedWrite, checkedRead_of_fits hs]
  rfl

theorem checkedValue_of_fits {o : Operand} (ho : o.Fits c.channels.length) :
    c.checkedValue samples o = .ok (c.value samples o) := by
  cases o with
  | slot s => exact checkedRead_of_fits ho
  | literal x => rfl
  | constant k => rfl

/-- **An instruction whose slots the pixel has passes the checks.** -/
theorem checkedStep_of_fits (hi : i.Fits c.channels.length) :
    c.checkedStep samples i = .ok (c.step samples i) := by
  simp only [checkedStep, checkedValue_of_fits samples hi.2, checkedRead_of_fits hi.1, ok_bind]
  refine checkedWrite_of_fits ?_ _
  exact hi.1

theorem foldlM_checkedStep_of_fits {is : List Instruction}
    (his : ∀ i ∈ is, i.Fits c.channels.length) :
    is.foldlM (checkedStep samples) c = .ok (is.foldl (step samples) c) := by
  induction is generalizing c with
  | nil => rfl
  | cons i is ih =>
    rw [List.foldlM_cons, List.foldl_cons, checkedStep_of_fits samples (his i List.mem_cons_self),
      ok_bind, ih]
    intro j hj
    rw [length_step]
    exact his j (List.mem_cons_of_mem _ hj)

end Cell

namespace Program

/-- Runs the program on one pixel. -/
def checkedRunPixel (p : Program) (samples : Sample.Stream) (pixel : List Float) :
    StateT Carry (Except Fault) (List Float) := fun carry => do
  let cell ← p.instructions.foldlM (Cell.checkedStep samples)
    { channels := pixel, drawn := carry.drawn }
  return (cell.channels, cell.toCarry)

/-- Runs the program on every whole group of `stride` values. -/
def checkedRunPixels (p : Program) (samples : Sample.Stream) (stride : Nat) (values : List Float) :
    StateT Carry (Except Fault) (List Float) := do
  let size ← groupSize stride
  let pixels ← (wholeGroups size values).mapM (p.checkedRunPixel samples)
  return pixels.flatten ++ leftover size values

variable {p : Program} (samples : Sample.Stream) {pixel : List Float} (carry : Carry)

/-- **A program can run on a pixel that has its channels**, and does there what it does without the
looks. -/
theorem checkedRunPixel_of_fits (hp : ∀ i ∈ p.instructions, i.Fits pixel.length) :
    p.checkedRunPixel samples pixel carry = .ok (p.runPixel samples pixel carry) := by
  rw [checkedRunPixel, Cell.foldlM_checkedStep_of_fits samples hp]
  rfl

/-- A program that names a fourth channel cannot run on a pixel of three. -/
example :
    checkedRunPixel ⟨.raw4, [⟨.channel 3, .set, .slot (.channel 0)⟩]⟩ (fun _ => 0) [1, 2, 3] {} =
      .error .outOfRange :=
  rfl

/-- A traversal that meets no fault at any element meets none. -/
theorem run_mapM_eq_ok {α β σ : Type} {f : α → StateT σ (Except Fault) β} {g : α → StateM σ β}
    {xs : List α} (h : ∀ a ∈ xs, ∀ s, f a s = .ok (g a s)) (s : σ) :
    (xs.mapM f).run s = .ok ((xs.mapM g).run s) := by
  induction xs generalizing s with
  | nil => rfl
  | cons a xs ih =>
    have hxs := ih fun b hb => h b (List.mem_cons_of_mem _ hb)
    have hcons : ((a :: xs).mapM f).run s =
        (f a s >>= fun r => (xs.mapM f).run r.2 >>= fun rs => .ok (r.1 :: rs.1, rs.2)) := by
      rw [List.mapM_cons]
      rfl
    rw [hcons, h a List.mem_cons_self, ok_bind, hxs, ok_bind, List.mapM_cons]
    rfl

/-- A program meets no fault on the whole pixels of a run of values. -/
theorem checkedRunPixels_eq {stride : Nat} (hs : 0 < stride)
    (hp : ∀ i ∈ p.instructions, i.Fits stride) (values : List Float) :
    (p.checkedRunPixels samples stride values).run carry =
      .ok ((p.runPixels samples stride values).run carry) := by
  have hpixels (pixel : List Float) (hpixel : pixel ∈ wholeGroups stride values) (s : Carry) :
      p.checkedRunPixel samples pixel s = .ok (p.runPixel samples pixel s) :=
    checkedRunPixel_of_fits samples s (length_of_mem_wholeGroups hs hpixel ▸ hp)
  have hrun : (p.checkedRunPixels samples stride values).run carry =
      (groupSize stride >>= fun size =>
        ((wholeGroups size values).mapM (p.checkedRunPixel samples)).run carry >>= fun r =>
          .ok (r.1.flatten ++ leftover size values, r.2)) := by
    rw [checkedRunPixels]
    simp only [StateT.run_bind]
    cases groupSize stride <;> rfl
  rw [hrun, groupSize_eq hs, ok_bind, run_mapM_eq_ok hpixels carry]
  rfl

end Program

end PixelMath
