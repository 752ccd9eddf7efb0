import PixelMath.Proofs.Engine.Run
import PixelMath.Proofs.Pixel.Frame

/-!
# The frame of a run

A run works on pixels of a partition with variables and samples of its own, and puts the partitions
back where they were. So a channel that the program leaves alone has in every pixel the value that
it had, whatever is done to variables and to the other channels, and a program that leaves every
channel alone leaves the buffer as it is.

## Main results

* `Engine.getElem?_run` — a position of the buffer that is kept.
* `Engine.run_frame` — what a compiled program keeps of a buffer, of a pixel and of a run of values.
-/

namespace PixelMath.Engine

variable {c : Config} {host : Host} {p : Program} {buffer : List Float}

/-- A run keeps the channels that the program leaves alone. -/
theorem getElem?_run (hb : buffer.length % p.format.channels = 0) {n : Nat}
    (hn : p.Keeps (n % p.format.channels)) : (run c host p buffer).buffer[n]? = buffer[n]? := by
  rw [run_of_whole c host p hb]
  exact getElem?_flatten_mapIdx_groups p.format.channels_pos hb
    (fun _ pixel => p.length_runPixel _ pixel _)
    fun _ pixel => Program.getElem?_runPixel _ hn pixel _

theorem run_of_keeps (hb : buffer.length % p.format.channels = 0)
    (hp : ∀ j < p.format.channels, p.Keeps j) : (run c host p buffer).buffer = buffer :=
  List.ext_getElem? fun n => getElem?_run hb (hp _ (Nat.mod_lt n p.format.channels_pos))

/-- **The frame of a run.** A statement leaves a channel alone if its target does not name it, or if
it assigns the channel to itself, under whatever two of its names. A channel that every statement of
a compiled text leaves alone has, after a run on whole pixels, the value that it had, in every
pixel, for any settings and on any machine; if that is so for every channel, the buffer is as it
was. On a single pixel and on a run of values, with whatever samples, the same channels are kept, as
are the values behind the channels of the format and behind the last whole group. -/
theorem run_frame {f : PixelFormat} {source : String} (h : compile f source = .ok p) :
    let kept (j : Nat) := ∀ s ∈ (Statement.group (tokens source)).1, s.Keeps f j
    (∀ (c : Config) (host : Host) (buffer : List Float), buffer.length % f.channels = 0 →
        (∀ j < f.channels, kept j → ∀ k : Nat,
          (run c host p buffer).buffer[k * f.channels + j]? = buffer[k * f.channels + j]?) ∧
        ((∀ j < f.channels, kept j) → (run c host p buffer).buffer = buffer)) ∧
      (∀ (samples : Sample.Stream) (pixel : List Float) (carry : Carry) (n : Nat),
        (n < f.channels → kept n) → (p.runPixel samples pixel carry).1[n]? = pixel[n]?) ∧
      ∀ (samples : Sample.Stream) (stride : Nat) (values : List Float) (carry : Carry),
        0 < stride → ∀ n : Nat,
          (n < values.length / stride * stride → n % stride < f.channels → kept (n % stride)) →
            ((p.runPixels samples stride values).run carry).1[n]? = values[n]? := by
  intro kept
  obtain ⟨-, rfl, -⟩ := compile_eq_ok_iff.mp h
  have hkept {j : Nat} (hj : j < p.format.channels → kept j) : p.Keeps j := by
    rcases Nat.lt_or_ge j p.format.channels with hlt | hge
    · exact (Program.keeps_iff_of_compile h).mp (hj hlt)
    · exact fun i hi => Instruction.keeps_of_fits (fits_of_compile h hi) hge
  refine ⟨fun c host buffer hb => ⟨fun j hj hjkept k => ?_, fun hall => ?_⟩,
    fun samples pixel carry n hn => ?_, fun samples stride values carry hs n hn => ?_⟩
  · refine getElem?_run hb ?_
    rw [Nat.mul_add_mod_self_right, Nat.mod_eq_of_lt hj]
    exact hkept fun _ => hjkept
  · exact run_of_keeps hb fun j hj => hkept fun _ => hall j hj
  · exact Program.getElem?_runPixel samples (hkept hn) pixel carry
  · exact Program.getElem?_runPixels samples hs values carry fun hlt => hkept (hn hlt)

/-- In the pixels with two channels `a`, the letter and the second positional name are the same
channel. Only the third channel is changed, by a random amount. -/
theorem run_frame_laba :
    ∃ p, compile .laba "v = L\nv * rand\nA = c2\nb + v" = .ok p ∧
      ∀ (c : Config) (host : Host) (buffer : List Float), buffer.length % 4 = 0 →
        ∀ j, j < 4 → j ≠ 2 → ∀ k : Nat,
          (run c host p buffer).buffer[k * 4 + j]? = buffer[k * 4 + j]? := by
  have h : compile .laba "v = L\nv * rand\nA = c2\nb + v" =
      .ok ⟨.laba, [⟨.scratch 0, .set, .slot (.channel 0)⟩, ⟨.scratch 0, .mul, .constant .rand⟩,
        ⟨.channel 1, .set, .slot (.channel 1)⟩, ⟨.channel 2, .add, .slot (.scratch 0)⟩]⟩ := by
    decide +kernel
  refine ⟨_, h, fun c host buffer hb j hj hne k => ?_⟩
  refine ((run_frame h).1 c host buffer hb).1 j hj ((Program.keeps_iff_of_compile h).mpr ?_) k
  interval_cases j
  · decide
  · decide
  · exact absurd rfl hne
  · decide

end PixelMath.Engine
