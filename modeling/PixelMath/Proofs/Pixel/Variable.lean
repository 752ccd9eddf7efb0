import PixelMath.Proofs.Pixel

/-!
# Variables that are set before they are read

An instruction that assigns its target, or puts a function of its operand there, forgets what was in
the target before. So a program that sets each variable before it reads it cannot tell with which
variables it began: after another program it works on a pixel as it does alone.

## Main definitions

* `Instruction.Reads`, `Instruction.Sets` — what an instruction does with a variable.
* `Program.SetsBeforeReads` — programs in which every read comes after a setting.
* `Program.append` — the instructions of one program and then those of another.
* `Cell.Agree` — cells that differ in variables that are not known at most.

## Main results

* `Cell.Agree.step`, `Cell.Agree.channels_foldl_step` — an instruction, and a list of them, on two
  cells that agree.
* `Program.runPixel_append_of_setsBeforeReads` — two programs on a pixel, one after the other.
-/

namespace PixelMath

/-! ### Reading and setting -/

namespace Instruction

/-- The instruction reads the variable, as its operand or as a target that it combines with its
operand. -/
def Reads (i : Instruction) (v : Fin scratchCount) : Prop :=
  i.operand = .slot (.scratch v) ∨ i.target = .scratch v ∧ i.operator.shape = .compound

/-- The instruction gives the variable a value made of its operand alone. -/
def Sets (i : Instruction) (v : Fin scratchCount) : Prop :=
  i.target = .scratch v ∧ (i.operator.shape = .assign ∨ i.operator.shape = .unary)

instance (i : Instruction) : DecidablePred i.Reads :=
  fun _ => inferInstanceAs (Decidable (_ ∨ _ ∧ _))

instance (i : Instruction) : DecidablePred i.Sets :=
  fun _ => inferInstanceAs (Decidable (_ ∧ (_ ∨ _)))

end Instruction

namespace Program

/-- Every instruction that reads a variable comes after one that sets it. -/
def SetsBeforeReads (p : Program) : Prop :=
  ∀ (k : Nat) (i : Instruction) (v : Fin scratchCount), p.instructions[k]? = some i → i.Reads v →
    ∃ j < k, ∃ i', p.instructions[j]? = some i' ∧ i'.Sets v

instance : DecidablePred SetsBeforeReads := fun p =>
  decidable_of_iff
    (∀ k < p.instructions.length, ∀ i ∈ p.instructions[k]?, ∀ v, i.Reads v →
      ∃ j < k, ∃ i' ∈ p.instructions[j]?, i'.Sets v)
    ⟨fun h k i v hi => h k (List.getElem?_eq_some_iff.mp hi).1 i hi v,
      fun h k _ i hi v => h k i v hi⟩

/-- The program that carries out the instructions of the first program and then those of the
second one. -/
def append (p q : Program) : Program where
  format := p.format
  instructions := p.instructions ++ q.instructions

theorem usesRandom_append (p q : Program) :
    (p.append q).usesRandom = (p.usesRandom || q.usesRandom) :=
  List.any_append

end Program

/-! ### Cells that agree -/

namespace Cell

variable {c c' : Cell} {known : Fin scratchCount → Prop} {i : Instruction}
  (samples : Sample.Stream)

/-- The cells are equal but for the variables that are not known. -/
structure Agree (known : Fin scratchCount → Prop) (c c' : Cell) : Prop where
  channels : c.channels = c'.channels
  drawn : c.drawn = c'.drawn
  scratch : ∀ v, known v → c.scratch.get v = c'.scratch.get v

theorem get_scratch_write (c : Cell) (x : Float) (s : Slot) (v : Fin scratchCount) :
    (c.write x s).scratch.get v = if s = .scratch v then x else c.scratch.get v := by
  cases s with
  | channel i => rfl
  | scratch i =>
    refine (Vector.getElem_set i.isLt v.isLt).trans ?_
    simp only [Slot.scratch.injEq, Fin.ext_iff]
    rfl

namespace Agree

theorem read (h : c.Agree known c') {s : Slot} (hs : ∀ v, s = .scratch v → known v) :
    c.read s = c'.read s := by
  cases s with
  | channel i => exact congrArg (·.getD i 0) h.channels
  | scratch v => exact h.scratch v (hs v rfl)

theorem value (h : c.Agree known c') {o : Operand}
    (ho : ∀ v, o = .slot (.scratch v) → known v) : c.value samples o = c'.value samples o := by
  cases o with
  | slot s => exact h.read fun v hv => ho v (congrArg Operand.slot hv)
  | literal x => rfl
  | constant k =>
    cases k with
    | pi | e => rfl
    | rand => exact congrArg samples h.drawn

theorem channels_write (h : c.Agree known c') (x : Float) (s : Slot) :
    (c.write x s).channels = (c'.write x s).channels := by
  cases s with
  | channel i => exact congrArg (·.set i x) h.channels
  | scratch i => exact h.channels

/-- The value that an instruction puts into its target is made of what the instruction reads. -/
theorem apply_eq (h : c.Agree known c') (hi : ∀ v, i.Reads v → known v) :
    i.operator.apply (c.read i.target) (c.value samples i.operand) =
      i.operator.apply (c'.read i.target) (c'.value samples i.operand) := by
  rw [h.value samples fun v hv => hi v (.inl hv)]
  by_cases hshape : i.operator.shape = .compound
  · rw [h.read fun v hv => hi v (.inr ⟨hv, hshape⟩)]
  · exact Operator.apply_of_shape_ne_compound hshape _ _ _

/-- An instruction that reads known variables only makes the variable that it sets known. -/
theorem step (h : c.Agree known c') (hi : ∀ v, i.Reads v → known v) :
    (c.step samples i).Agree (fun v => known v ∨ i.Sets v) (c'.step samples i) := by
  have happly := h.apply_eq samples hi
  refine ⟨?_, ?_, fun v hv => ?_⟩
  · rw [step_eq, step_eq, happly]
    exact h.channels_write _ i.target
  · rw [drawn_step, drawn_step, h.drawn]
  · have hget (c : Cell) : (c.step samples i).scratch.get v =
        if i.target = .scratch v then i.operator.apply (c.read i.target) (c.value samples i.operand)
        else c.scratch.get v := by
      rw [step_eq]
      exact get_scratch_write c _ i.target v
    rw [hget, hget, happly]
    split
    · rfl
    · next htarget => exact h.scratch v (hv.resolve_right fun hsets => htarget hsets.1)

/-- Instructions that read a variable only after it is set make the same channels of two cells that
agree. -/
theorem channels_foldl_step {is : List Instruction} (h : c.Agree known c')
    (his : ∀ (k : Nat) (i : Instruction) (v : Fin scratchCount), is[k]? = some i → i.Reads v →
      known v ∨ ∃ j < k, ∃ i', is[j]? = some i' ∧ i'.Sets v) :
    (is.foldl (Cell.step samples) c).channels = (is.foldl (Cell.step samples) c').channels := by
  induction is generalizing c c' known with
  | nil => exact h.channels
  | cons i is ih =>
    have hi (v : Fin scratchCount) (hv : i.Reads v) : known v :=
      (his 0 i v rfl hv).resolve_right fun ⟨j, hj, _⟩ => Nat.not_lt_zero j hj
    refine ih (h.step samples hi) fun k i' v hk hv => ?_
    rcases his (k + 1) i' v hk hv with hknown | ⟨j, hj, i'', hget, hsets⟩
    · exact .inl (.inl hknown)
    · cases j with
      | zero =>
        cases hget
        exact .inl (.inr hsets)
      | succ j => exact .inr ⟨j, Nat.lt_of_succ_lt_succ hj, i'', hget, hsets⟩

end Agree

end Cell

/-! ### Programs one after the other -/

namespace Program

variable {p q : Program} (samples : Sample.Stream) (pixel : List Float) (carry : Carry)

/-- **Two programs on a pixel, one after the other.** Where the second one sets its variables before
it reads them, it does not see that they are not zero when it begins. -/
theorem runPixel_append_of_setsBeforeReads (hq : q.SetsBeforeReads) :
    ((p.append q).runPixel samples pixel carry).1 =
      (q.runPixel samples (p.runPixel samples pixel carry).1
        (p.runPixel samples pixel carry).2).1 := by
  have hagree : Cell.Agree (fun _ => False)
      (p.instructions.foldl (Cell.step samples) { channels := pixel, drawn := carry.drawn })
      { channels := (p.runPixel samples pixel carry).1,
        drawn := (p.runPixel samples pixel carry).2.drawn } :=
    ⟨rfl, rfl, fun _ hv => hv.elim⟩
  have hchannels := hagree.channels_foldl_step samples fun k i v hk hv => .inr (hq k i v hk hv)
  rw [← List.foldl_append] at hchannels
  exact hchannels

end Program

end PixelMath
