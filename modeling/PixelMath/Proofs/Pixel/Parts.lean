import PixelMath.Proofs.Pixel.Checked
import PixelMath.Proofs.Program.Compile

/-!
# Runs in parts

The values of a run can be cut behind any whole pixel. One run after the other, each of which finds
what the one before it left behind, then does what a single run does. This is what a partition
relies on: wherever the buffer is cut, the pixels do not notice.

From pixel to pixel there are handed on the number of samples taken, which the next pixel goes on
from, and the variables, which it sets to zero. So the variables that a run finds matter only where
no pixel replaces them.

## Main results

* `Program.runPixels_append` — a run over values put together.
* `Program.drawn_runPixels` — the samples that a run takes.
* `Program.runPixels_forgets`, `Program.runPixels_eq_of_drawn` — the variables that a run finds.
* `Program.runPixels_of_length_lt` — a run without a whole pixel.
* `Program.runPixels_in_parts` — these together, for a compiled program.
-/

namespace PixelMath

/-! ### Slots of wider pixels -/

theorem Slot.Fits.mono {m n : Nat} (hmn : m ≤ n) {s : Slot} (hs : s.Fits m) : s.Fits n := by
  cases s with
  | channel i => exact Nat.lt_of_lt_of_le hs hmn
  | scratch i => trivial

theorem Instruction.Fits.mono {m n : Nat} (hmn : m ≤ n) {i : Instruction} (hi : i.Fits m) :
    i.Fits n := by
  refine ⟨hi.1.mono hmn, ?_⟩
  have hoperand := hi.2
  cases ho : i.operand with
  | slot s =>
    rw [ho] at hoperand
    exact Slot.Fits.mono hmn hoperand
  | literal x => trivial
  | constant k => trivial

/-! ### Traversals that hand on a count -/

section Traversal

variable {α β : Type} {f : α → StateM Carry β} {count : Nat}

/-- Where each element takes `count` samples, a traversal takes `count` for every element. -/
theorem drawn_run_mapM (hdrawn : ∀ a carry, (f a carry).2.drawn = carry.drawn + count)
    (xs : List α) (carry : Carry) :
    ((xs.mapM f).run carry).2.drawn = carry.drawn + xs.length * count := by
  induction xs generalizing carry with
  | nil => rw [List.length_nil, Nat.zero_mul, Nat.add_zero]; rfl
  | cons a xs ih =>
    rw [run_mapM_cons, ih, hdrawn, List.length_cons, Nat.succ_mul, Nat.add_assoc,
      Nat.add_comm count]

/-- Where an element sees nothing but the count, neither does a traversal that has an element. -/
theorem run_mapM_of_ne_nil (hcarry : ∀ a carry, f a carry = f a { drawn := carry.drawn })
    {xs : List α} (hxs : xs ≠ []) (carry : Carry) :
    (xs.mapM f).run carry = (xs.mapM f).run { drawn := carry.drawn } := by
  cases xs with
  | nil => exact absurd rfl hxs
  | cons a xs => rw [run_mapM_cons, run_mapM_cons, ← hcarry]

end Traversal

/-! ### Runs over pixels -/

namespace Program

variable (p : Program) (samples : Sample.Stream) {stride : Nat}

/-- **A run over values put together.** Behind whole pixels, a run goes on with what the run over
them left behind. -/
theorem runPixels_append (hs : 0 < stride) {xs : List Float} (hx : xs.length % stride = 0)
    (ys : List Float) :
    p.runPixels samples stride (xs ++ ys) = do
      let first ← p.runPixels samples stride xs
      let second ← p.runPixels samples stride ys
      return first ++ second := by
  simp only [runPixels, wholeGroups_append hs hx, leftover_append hs hx, leftover_of_whole hx,
    List.mapM_append, List.flatten_append, List.append_nil, List.append_assoc, bind_assoc,
    pure_bind]

/-- A run takes one sample for every random operand and every whole pixel. -/
theorem drawn_runPixels (hs : 0 < stride) (values : List Float) (carry : Carry) :
    ((p.runPixels samples stride values).run carry).2.drawn =
      carry.drawn + values.length / stride * p.randomCount := by
  have h := drawn_run_mapM (p.drawn_runPixel samples) (wholeGroups stride values) carry
  rw [length_wholeGroups hs] at h
  exact h

/-- The values that a run leaves do not depend on the variables that it finds. -/
theorem runPixels_forgets (values : List Float) (carry : Carry) :
    ((p.runPixels samples stride values).run carry).1 =
      ((p.runPixels samples stride values).run { drawn := carry.drawn }).1 := by
  rw [runPixels_eq, runPixels_eq]

/-- Behind a whole pixel, nothing is left of the variables that a run finds. -/
theorem runPixels_eq_of_drawn (hs : 0 < stride) {values : List Float}
    (hvalues : stride ≤ values.length) (carry : Carry) :
    (p.runPixels samples stride values).run carry =
      (p.runPixels samples stride values).run { drawn := carry.drawn } := by
  have hne : wholeGroups stride values ≠ [] := by
    refine List.length_pos_iff.mp ?_
    rw [length_wholeGroups hs]
    exact Nat.div_pos hvalues hs
  have h := run_mapM_of_ne_nil (p.runPixel_carry samples) hne carry
  simp only [runPixels, StateT.run_bind, h]

/-- A run without a whole pixel changes nothing. -/
theorem runPixels_of_length_lt {values : List Float} (hvalues : values.length < stride) :
    p.runPixels samples stride values = pure values := by
  rw [runPixels, wholeGroups_of_length_lt hvalues, leftover_of_length_lt hvalues]
  rfl

variable {p} {f : PixelFormat} {source : String}

/-- **Runs in parts.** A compiled program, on pixels with all channels of its format, meets no
fault, whatever was left behind before. Cut behind whole pixels, its run is one run after the other.
It takes one sample for every random operand and every whole pixel. The variables that it finds
change no value, and behind a whole pixel they are forgotten; without one, nothing changes at
all. -/
theorem runPixels_in_parts (hp : compile f source = .ok p) (hs : f.channels ≤ stride)
    (samples : Sample.Stream) (carry : Carry) :
    (∀ values, (p.checkedRunPixels samples stride values).run carry =
        .ok ((p.runPixels samples stride values).run carry)) ∧
      (∀ xs ys, xs.length % stride = 0 →
        let first := (p.runPixels samples stride xs).run carry
        let second := (p.runPixels samples stride ys).run first.2
        (p.runPixels samples stride (xs ++ ys)).run carry = (first.1 ++ second.1, second.2)) ∧
      (∀ values scratch,
        let found := (p.runPixels samples stride values).run carry
        let other := (p.runPixels samples stride values).run { carry with scratch }
        other.1 = found.1 ∧ (stride ≤ values.length → other.2 = found.2)) ∧
      (∀ values, ((p.runPixels samples stride values).run carry).2.drawn =
        carry.drawn + values.length / stride * p.randomCount) ∧
      ∀ values, values.length < stride →
        (p.runPixels samples stride values).run carry = (values, carry) := by
  have hpos : 0 < stride := f.channels_pos.trans_le hs
  have hfits (i : Instruction) (hi : i ∈ p.instructions) : i.Fits stride :=
    (fits_of_compile hp hi).mono hs
  refine ⟨p.checkedRunPixels_eq samples carry hpos hfits, fun xs ys hx => ?_,
    fun values scratch => ⟨?_, fun hvalues => ?_⟩, fun values => ?_, fun values hvalues => ?_⟩
  · rw [p.runPixels_append samples hpos hx]
    rfl
  · rw [runPixels_forgets, runPixels_forgets p samples values carry]
  · rw [runPixels_eq_of_drawn p samples hpos hvalues,
      runPixels_eq_of_drawn p samples hpos hvalues carry]
  · exact p.drawn_runPixels samples hpos values carry
  · rw [p.runPixels_of_length_lt samples hvalues]
    rfl

/-- Pixels of four values for a format with three channels: two of them, then one more and a rest
of two values. The variable is zero for each pixel, and the samples go on behind the two that were
taken before. -/
theorem runPixels_in_parts_rgb :
    let p : Program := ⟨.rgb, [⟨.scratch 0, .add, .constant .rand⟩,
      ⟨.channel 0, .add, .slot (.scratch 0)⟩]⟩
    let samples : Sample.Stream := fun n => if n < 3 then 10 else if n < 4 then 20 else 30
    let carry : Carry := { scratch := Vector.replicate scratchCount 7, drawn := 2 }
    compile .rgb "v + rand\nr + v" = .ok p ∧
      [1, 2, 3, 4, 5, 6, 7, (8 : Float)].length % 4 = 0 ∧
      (p.runPixels samples 4 ([1, 2, 3, 4, 5, 6, 7, 8] ++ [9, 1, 2, 3, 4, 5])).run carry =
        ([11, 2, 3, 4, 25, 6, 7, 8, 39, 1, 2, 3, 4, 5],
          { scratch := Scratch.zero.set 0 30, drawn := 5 }) := by
  have hp : compile .rgb "v + rand\nr + v" =
      .ok ⟨.rgb, [⟨.scratch 0, .add, .constant .rand⟩,
        ⟨.channel 0, .add, .slot (.scratch 0)⟩]⟩ := by
    decide +kernel
  have hs : PixelFormat.rgb.channels ≤ 4 := by decide
  refine ⟨hp, rfl, ?_⟩
  rw [(runPixels_in_parts hp hs _ _).2.1 _ _ rfl]
  exact Prod.ext (by decide +kernel) (by decide +kernel)

end Program

end PixelMath
