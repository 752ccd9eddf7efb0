import PixelMath.Proofs.Groups
import PixelMath.Proofs.Pixel
import PixelMath.Proofs.Program.Compile

/-!
# Channels that a program leaves alone

An instruction writes its target and nothing else, and setting a channel to itself writes back the
value that was read. So a channel that no other instruction has for its target keeps its value,
whatever is done to variables and to the other channels. A compiled statement names its target and
its operand by any of their spellings; what counts is that both name the channel.

## Main definitions

* `Instruction.Keeps`, `Program.Keeps` — no instruction writes the channel but to set it to itself.
* `Statement.Keeps` — the same of a statement, by what its tokens name.

## Main results

* `Program.keeps_iff_of_compile` — a compiled program keeps the channels that its statements keep.
* `Cell.getElem?_step`, `Program.getElem?_runPixel` — channels that are kept, on one pixel.
* `Program.getElem?_runPixels` — on the pixels of a run of values, and behind the last of them.
-/

namespace PixelMath

/-! ### Instructions that leave a channel alone -/

/-- Whether the instruction leaves channel `n` alone: either the channel is not its target, or the
channel is set to itself. -/
def Instruction.Keeps (i : Instruction) (n : Nat) : Prop :=
  ∀ j : Fin maxChannels, j.val = n → i.target = .channel j →
    i.operator = .set ∧ i.operand = .slot (.channel j)

instance (i : Instruction) (n : Nat) : Decidable (i.Keeps n) :=
  inferInstanceAs (Decidable (∀ j : Fin maxChannels, j.val = n → i.target = .channel j →
    i.operator = .set ∧ i.operand = .slot (.channel j)))

/-- Whether every instruction leaves channel `n` alone. -/
def Program.Keeps (p : Program) (n : Nat) : Prop :=
  ∀ i ∈ p.instructions, i.Keeps n

instance (p : Program) (n : Nat) : Decidable (p.Keeps n) :=
  inferInstanceAs (Decidable (∀ i ∈ p.instructions, i.Keeps n))

/-- A channel behind those of the format is no target. -/
theorem Instruction.keeps_of_fits {i : Instruction} {channels n : Nat} (hi : i.Fits channels)
    (hn : channels ≤ n) : i.Keeps n := by
  rintro j rfl htarget
  have hj : (Slot.channel j).Fits channels := htarget ▸ hi.1
  exact absurd hj (Nat.not_lt_of_le hn)

/-- Whether the statement leaves channel `n` alone: either its target does not name the channel, or
it is an assignment whose operand names the channel too. -/
def Statement.Keeps (f : PixelFormat) (n : Nat) (s : Statement) : Prop :=
  ∀ j : Fin maxChannels, j.val = n →
    Symbol.resolve f s.target.toSite = .ok (some (.slot (.channel j))) →
      Operator.ofSpelling? s.operator.text = some .set ∧
        Symbol.resolve f s.operand.toSite = .ok (some (.slot (.channel j)))

theorem Statement.keeps_iff {f : PixelFormat} {n : Nat} {s : Statement} {i : Instruction}
    (h : s.compile f = .ok i) : s.Keeps f n ↔ i.Keeps n := by
  obtain ⟨htarget, hoperator, hoperand⟩ := compile_eq_ok_iff.mp h
  rw [compileTarget_eq_ok_iff] at htarget
  rw [compileOperator_eq_ok_iff] at hoperator
  have hset : Operator.ofSpelling? s.operator.text = some .set ↔ i.operator = .set := by
    rw [hoperator, Option.some.injEq]
  have hself (j : Fin maxChannels) :
      Symbol.resolve f s.operand.toSite = .ok (some (.slot (.channel j))) ↔
        i.operand = .slot (.channel j) := by
    have hdenotes : compileOperand f s.operand = .ok (.slot (.channel j)) ↔
        Symbol.resolve f s.operand.toSite = .ok (some (.slot (.channel j))) :=
      compileOperand_eq_ok_iff
    rw [← hdenotes, hoperand, Except.ok.injEq]
  simp only [Statement.Keeps, Instruction.Keeps, htarget, hset, hself, Except.ok.injEq,
    Option.some.injEq, Symbol.slot.injEq]

/-- **A compiled program keeps the channels that its statements keep.** -/
theorem Program.keeps_iff_of_compile {f : PixelFormat} {source : String} {p : Program} {n : Nat}
    (h : compile f source = .ok p) :
    (∀ s ∈ (Statement.group (tokens source)).1, s.Keeps f n) ↔ p.Keeps n := by
  obtain ⟨-, -, hall⟩ := compile_eq_ok_iff.mp h
  rw [Program.Keeps]
  generalize (Statement.group (tokens source)).1 = statements at hall
  generalize p.instructions = is at hall
  induction hall with
  | nil => exact iff_of_true (fun _ h => nomatch h) fun _ h => nomatch h
  | cons hs _ ih => rw [List.forall_mem_cons, List.forall_mem_cons, Statement.keeps_iff hs, ih]

/-! ### One pixel -/

namespace Cell

variable (samples : Sample.Stream)

/-- Writing back what a channel holds changes nothing. -/
theorem channels_write_read (c : Cell) (j : Fin maxChannels) :
    (c.write (c.read (.channel j)) (.channel j)).channels = c.channels := by
  refine List.ext_getElem? fun n => ?_
  rw [write, List.getElem?_set, read, List.getD_eq_getElem?_getD]
  split_ifs with hn hlt
  · rw [← hn, List.getElem?_eq_getElem hlt, Option.getD_some]
  · rw [← hn, List.getElem?_eq_none (Nat.le_of_not_lt hlt)]
  · rfl

theorem getElem?_write_of_ne (c : Cell) (x : Float) {s : Slot} {n : Nat}
    (h : ∀ j : Fin maxChannels, j.val = n → s ≠ .channel j) :
    (c.write x s).channels[n]? = c.channels[n]? := by
  cases s with
  | channel j => exact List.getElem?_set_ne fun hj => h j hj rfl
  | scratch v => rfl

/-- **An instruction keeps the channels that it leaves alone.** -/
theorem getElem?_step (c : Cell) {i : Instruction} {n : Nat} (hi : i.Keeps n) :
    (c.step samples i).channels[n]? = c.channels[n]? := by
  rw [step_eq]
  by_cases h : ∃ j : Fin maxChannels, j.val = n ∧ i.target = .channel j
  · obtain ⟨j, hj, htarget⟩ := h
    obtain ⟨hoperator, hoperand⟩ := hi j hj htarget
    -- the value that is written is the operand, which is the value of the channel
    rw [hoperator, hoperand, htarget]
    exact congrArg (·[n]?) (channels_write_read c j)
  · exact getElem?_write_of_ne c _ fun j hj htarget => h ⟨j, hj, htarget⟩

theorem getElem?_foldl_step {is : List Instruction} {n : Nat} (his : ∀ i ∈ is, i.Keeps n)
    (c : Cell) : (is.foldl (step samples) c).channels[n]? = c.channels[n]? := by
  induction is generalizing c with
  | nil => rfl
  | cons i is ih =>
    rw [List.foldl_cons, ih fun j hj => his j (List.mem_cons_of_mem _ hj)]
    exact getElem?_step samples c (his i List.mem_cons_self)

end Cell

namespace Program

variable {p : Program} {n : Nat} (samples : Sample.Stream)

/-- **A pixel keeps the channels that the program leaves alone.** -/
theorem getElem?_runPixel (hp : p.Keeps n) (pixel : List Float) (carry : Carry) :
    (p.runPixel samples pixel carry).1[n]? = pixel[n]? :=
  Cell.getElem?_foldl_step samples hp _

/-! ### Many pixels -/

/-- **A run over values keeps the channels that the program leaves alone**, in every whole group,
and every value behind the last of them. -/
theorem getElem?_runPixels {stride : Nat} (hs : 0 < stride) (values : List Float) (carry : Carry)
    (hn : n < values.length / stride * stride → p.Keeps (n % stride)) :
    ((p.runPixels samples stride values).run carry).1[n]? = values[n]? := by
  have hlength (k : Nat) (pixel : List Float) :
      (p.runPixel samples pixel { drawn := carry.drawn + k * p.randomCount }).1.length =
        pixel.length := p.length_runPixel _ _ _
  have hworked := (length_flatten_mapIdx_groups hs
    (values.take (values.length / stride * stride)) hlength).trans (length_take_whole _ _)
  rw [runPixels_eq, wholeGroups]
  rcases Nat.lt_or_ge n (values.length / stride * stride) with hlt | hge
  · rw [List.getElem?_append_left (hlt.trans_eq hworked.symm),
      getElem?_flatten_mapIdx_groups hs (length_take_whole_mod _ _) hlength fun k pixel =>
        getElem?_runPixel samples (hn hlt) pixel _, List.getElem?_take_of_lt hlt]
  · rw [List.getElem?_append_right (hworked.trans_le hge), hworked, leftover, List.getElem?_drop,
      Nat.add_sub_cancel' hge]

end Program

end PixelMath
