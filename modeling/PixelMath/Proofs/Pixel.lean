import Mathlib.Data.List.Basic
import PixelMath.Pixel

/-!
# Runs on pixels and the samples they take

A pixel takes one sample for every random operand of the program, whatever its values, and hands
on nothing but the number of samples taken. So the samples of a pixel are known beforehand: they
can be written into the program as literals, and what is left is a program without random operands.

## Main definitions

* `Program.randomCount` — the number of random operands of a program.
* `Program.supply` — a program with its random operands replaced by given numbers.
* `Cell.readings`, `Program.readPixel`, `Program.readPixels` — the numbers that the random operands
  receive in a run.

## Main results

* `Program.drawn_runPixel` — a pixel takes `randomCount` samples.
* `Program.runPixel_supply` — samples may be written into the program beforehand.
* `Program.readPixel_eq` — random operand `r` receives sample `drawn + r`.
* `run_mapM_mapIdx`, `Program.runPixels_eq` — a run over many pixels, pixel by pixel.
-/

namespace PixelMath

/-! ### Counting samples -/

/-- The number of instructions that read a random sample. -/
def Program.randomCount (p : Program) : Nat :=
  p.instructions.countP (·.operand.isRandom)

namespace Cell

theorem drawn_foldl_step (samples : Sample.Stream) (is : List Instruction) (c : Cell) :
    (is.foldl (step samples) c).drawn = c.drawn + is.countP (·.operand.isRandom) := by
  induction is generalizing c with
  | nil => rfl
  | cons i is ih =>
    rw [List.foldl_cons, ih, drawn_step, List.countP_cons]
    split
    · omega
    · rfl

end Cell

/-! ### Samples written into a program -/

namespace Instruction

/-- The instruction with the number `x` as its operand. -/
def withLiteral (i : Instruction) (x : Float) : Instruction :=
  { i with operand := .literal x }

/-- The instructions with their random operands replaced, from operand number `r` on, by the given
numbers. -/
def supply (draw : Nat → Float) : Nat → List Instruction → List Instruction
  | _, [] => []
  | r, i :: is =>
    if i.operand.isRandom then i.withLiteral (draw r) :: supply draw (r + 1) is
    else i :: supply draw r is

end Instruction

/-- The program with its random operands replaced, in their order, by the numbers `draw 0`,
`draw 1`, and so on. -/
def Program.supply (p : Program) (draw : Nat → Float) : Program :=
  { p with instructions := Instruction.supply draw 0 p.instructions }

theorem Program.supply_eq_self {p : Program} (hp : p.usesRandom = false) (draw : Nat → Float) :
    p.supply draw = p := by
  have h (is : List Instruction) (r : Nat) (his : ∀ i ∈ is, ¬i.operand.isRandom) :
      Instruction.supply draw r is = is := by
    induction is with
    | nil => rfl
    | cons i is ih =>
      rw [Instruction.supply, if_neg (his i List.mem_cons_self),
        ih fun j hj => his j (List.mem_cons_of_mem _ hj)]
  rw [supply, h _ _ (List.any_eq_false.mp hp)]

/-! ### The numbers that random operands receive -/

/-- The numbers that the random operands of some instructions receive, in order, when the
instructions are carried out. -/
def Cell.readings (samples : Sample.Stream) : Cell → List Instruction → List Float
  | _, [] => []
  | c, i :: is =>
    if i.operand.isRandom then c.value samples i.operand :: readings samples (c.step samples i) is
    else readings samples (c.step samples i) is

/-- The numbers that the random operands of the program receive on one pixel. -/
def Program.readPixel (p : Program) (samples : Sample.Stream) (pixel : List Float) :
    StateM Carry (List Float) := fun carry =>
  (Cell.readings samples { channels := pixel, drawn := carry.drawn } p.instructions,
    (p.runPixel samples pixel carry).2)

/-- The numbers that the random operands of the program receive on every whole group of `stride`
values, pixel by pixel. -/
def Program.readPixels (p : Program) (samples : Sample.Stream) (stride : Nat)
    (values : List Float) : StateM Carry (List (List Float)) :=
  (wholeGroups stride values).mapM (p.readPixel samples)

namespace Cell

theorem value_of_isRandom {o : Operand} (ho : o.isRandom) (samples : Sample.Stream) (c : Cell) :
    c.value samples o = samples c.drawn := by
  match o, ho with
  | .constant .rand, _ => rfl

theorem readings_eq (samples : Sample.Stream) (is : List Instruction) (c : Cell) :
    readings samples c is =
      (List.range (is.countP (·.operand.isRandom))).map fun r => samples (c.drawn + r) := by
  induction is generalizing c with
  | nil => rfl
  | cons i is ih =>
    rw [readings, List.countP_cons]
    split
    · next hi =>
      rw [ih, drawn_step, if_pos hi, value_of_isRandom hi, List.range_succ_eq_map, List.map_cons,
        List.map_map]
      refine congrArg₂ List.cons rfl (List.map_congr_left fun r _ => congrArg samples ?_)
      omega
    · next hi => rw [ih, drawn_step, if_neg hi, Nat.add_zero]

/-- The cell with another number of samples taken. -/
def setDrawn (c : Cell) (n : Nat) : Cell :=
  { c with drawn := n }

@[simp] theorem read_setDrawn (c : Cell) (n : Nat) (s : Slot) :
    (c.setDrawn n).read s = c.read s := by
  cases s <;> rfl

theorem write_setDrawn (c : Cell) (n : Nat) (x : Float) (s : Slot) :
    (c.setDrawn n).write x s = (c.write x s).setDrawn n := by
  cases s <;> rfl

theorem value_setDrawn {o : Operand} (ho : ¬o.isRandom) (samples other : Sample.Stream)
    (c : Cell) (n : Nat) : (c.setDrawn n).value other o = c.value samples o := by
  match o, ho with
  | .slot s, _ => exact read_setDrawn c n s
  | .literal _, _ | .constant .pi, _ | .constant .e, _ => rfl
  | .constant .rand, ho => exact absurd rfl ho

theorem step_eq (samples : Sample.Stream) (c : Cell) (i : Instruction) :
    c.step samples i =
      (c.write (i.operator.apply (c.read i.target) (c.value samples i.operand)) i.target).setDrawn
        (if i.operand.isRandom then c.drawn + 1 else c.drawn) :=
  write_setDrawn c _ _ i.target

/-- An instruction with its sample written into it does what the instruction does, and takes no
sample. -/
theorem step_withLiteral {i : Instruction} (hi : i.operand.isRandom) (samples other : Sample.Stream)
    (c : Cell) (n : Nat) :
    (c.setDrawn n).step other (i.withLiteral (samples c.drawn)) =
      (c.step samples i).setDrawn n := by
  rw [step_eq, step_eq, value_of_isRandom hi, read_setDrawn, write_setDrawn]
  rfl

theorem step_setDrawn {i : Instruction} (hi : ¬i.operand.isRandom) (samples other : Sample.Stream)
    (c : Cell) (n : Nat) :
    (c.setDrawn n).step other i = (c.step samples i).setDrawn n := by
  rw [step_eq, step_eq, value_setDrawn hi samples, read_setDrawn, write_setDrawn, if_neg hi]
  rfl

/-- Carrying out instructions on samples, or with the samples written into them, differs only in
the number of samples taken. -/
theorem foldl_step_supply {samples : Sample.Stream} {draw : Nat → Float} {base : Nat}
    (hdraw : ∀ r, draw r = samples (base + r)) (other : Sample.Stream) (n : Nat)
    (is : List Instruction) (r : Nat) (c : Cell) (hc : c.drawn = base + r) :
    (Instruction.supply draw r is).foldl (step other) (c.setDrawn n) =
      (is.foldl (step samples) c).setDrawn n := by
  induction is generalizing r c with
  | nil => rfl
  | cons i is ih =>
    have hdrawn := drawn_step samples c i
    rw [Instruction.supply]
    split
    · next hi =>
      rw [if_pos hi, hc, Nat.add_assoc] at hdrawn
      rw [List.foldl_cons, List.foldl_cons, hdraw, ← hc, step_withLiteral hi, ih _ _ hdrawn]
    · next hi =>
      rw [if_neg hi, hc] at hdrawn
      rw [List.foldl_cons, List.foldl_cons, step_setDrawn hi samples, ih _ _ hdrawn]

end Cell

/-! ### One pixel -/

namespace Program

variable (p : Program) (samples : Sample.Stream) (pixel : List Float) (carry : Carry)

/-- A pixel takes one sample for every random operand. -/
theorem drawn_runPixel :
    (p.runPixel samples pixel carry).2.drawn = carry.drawn + p.randomCount :=
  Cell.drawn_foldl_step _ _ _

/-- **A pixel starts afresh.** Of what was left behind before it, only the number of samples taken
matters. -/
theorem runPixel_carry :
    p.runPixel samples pixel carry = p.runPixel samples pixel { drawn := carry.drawn } :=
  rfl

theorem readPixel_carry :
    p.readPixel samples pixel carry = p.readPixel samples pixel { drawn := carry.drawn } :=
  rfl

/-- Random operand `r` of a pixel receives the sample `r` places behind those taken before. -/
theorem readPixel_eq :
    (p.readPixel samples pixel carry).1 =
      (List.range p.randomCount).map fun r => samples (carry.drawn + r) :=
  Cell.readings_eq _ _ _

/-- The samples of a pixel may be written into the program beforehand. -/
theorem runPixel_supply (other : Sample.Stream) (carry' : Carry) :
    ((p.supply fun r => samples (carry.drawn + r)).runPixel other pixel carry').1 =
      (p.runPixel samples pixel carry).1 := by
  have hdraw (r : Nat) : (fun r => samples (carry.drawn + r)) r = samples (carry.drawn + r) := rfl
  have h := congrArg Cell.channels <| Cell.foldl_step_supply hdraw other carry'.drawn
    p.instructions 0 { channels := pixel, drawn := carry.drawn } rfl
  exact h

/-- Without random operands neither samples nor what was left behind matter. -/
theorem runPixel_of_not_usesRandom {p : Program} (hp : p.usesRandom = false)
    (other : Sample.Stream) (carry' : Carry) :
    (p.runPixel samples pixel carry).1 = (p.runPixel other pixel carry').1 := by
  rw [← p.runPixel_supply samples pixel carry other carry', supply_eq_self hp]

end Program

/-! ### Many pixels -/

theorem run_mapM_cons {α β : Type} {f : α → StateM Carry β} (a : α) (xs : List α)
    (carry : Carry) :
    ((a :: xs).mapM f).run carry =
      ((f a carry).1 :: ((xs.mapM f).run (f a carry).2).1, ((xs.mapM f).run (f a carry).2).2) := by
  rw [List.mapM_cons]
  rfl

/-- A stateful run over a list where each element starts from the number of samples taken before
it and takes `count` of them. -/
theorem run_mapM_mapIdx {α β : Type} {f : α → StateM Carry β} {count : Nat}
    (hcarry : ∀ a carry, f a carry = f a { drawn := carry.drawn })
    (hdrawn : ∀ a carry, (f a carry).2.drawn = carry.drawn + count) (xs : List α)
    (carry : Carry) :
    ((xs.mapM f).run carry).1 =
      xs.mapIdx fun k a => (f a { drawn := carry.drawn + k * count }).1 := by
  induction xs generalizing carry with
  | nil => rfl
  | cons a xs ih =>
    have hnext (k : Nat) : carry.drawn + count + k * count = carry.drawn + (k + 1) * count := by
      rw [Nat.succ_mul, Nat.add_assoc, Nat.add_comm count]
    rw [run_mapM_cons, ih, hdrawn, List.mapIdx_cons, Nat.zero_mul, Nat.add_zero, ← hcarry]
    simp only [hnext]

/-- A run over values is a map over the whole groups, with the rest behind them. -/
theorem Program.runPixels_eq (p : Program) (samples : Sample.Stream) (stride : Nat)
    (values : List Float) (carry : Carry) :
    ((p.runPixels samples stride values).run carry).1 =
      ((wholeGroups stride values).mapIdx fun k pixel =>
        (p.runPixel samples pixel { drawn := carry.drawn + k * p.randomCount }).1).flatten ++
          leftover stride values := by
  rw [← run_mapM_mapIdx (p.runPixel_carry samples) (p.drawn_runPixel samples)]
  rfl

end PixelMath
