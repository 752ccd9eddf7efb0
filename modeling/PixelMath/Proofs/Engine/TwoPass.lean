import PixelMath.Proofs.Engine.Apply
import PixelMath.Proofs.Program.Append

/-!
# One pass for two

Two programs that are applied to a buffer one after the other work on each pixel one after the
other. So do the two texts put together, but for one thing: between two passes the scratch variables
are zeroed, and inside one pass they are not. Where the second program sets its variables before it
reads them, one pass does what two do.

## Main results

* `Engine.pixelsAfter_append` — the pixels after one pass and after two.
* `Engine.apply_append_blanks` — one application for two.
-/

namespace PixelMath.Engine

variable {p q : Program} {buffer : List Float}

/-- One pass makes of each pixel what two passes make of it. -/
theorem pixelsAfter_append (hp : p.usesRandom = false) (hq : q.usesRandom = false)
    (hformat : q.format = p.format) (hset : q.SetsBeforeReads)
    (hb : buffer.length % p.format.channels = 0) (c c₁ c₂ : Config) (host host₁ host₂ : Host) :
    pixelsAfter c host (p.append q) buffer =
      pixelsAfter c₂ host₂ q (run c₁ host₁ p buffer).buffer := by
  have hpq : (p.append q).usesRandom = false := by rw [p.usesRandom_append, hp, hq, Bool.or_self]
  -- no program reads a sample, so all of them may be given the same ones
  let samples : Sample.Stream := fun _ => 0
  rw [pixelsAfter_of_not_usesRandom c host hpq samples {},
    pixelsAfter_of_not_usesRandom c₂ host₂ hq samples {}, hformat, groups_run c₁ host₁ p hb,
    pixelsAfter_of_not_usesRandom c₁ host₁ hp samples {}, List.map_map]
  refine List.map_congr_left fun pixel _ => ?_
  rw [Program.runPixel_append_of_setsBeforeReads samples pixel {} hset]
  exact q.runPixel_of_not_usesRandom samples _ _ hq samples {}

theorem run_append (hp : p.usesRandom = false) (hq : q.usesRandom = false)
    (hformat : q.format = p.format) (hset : q.SetsBeforeReads)
    (hb : buffer.length % p.format.channels = 0) (c c₁ c₂ : Config) (host host₁ host₂ : Host) :
    (run c host (p.append q) buffer).buffer =
      (run c₂ host₂ q (run c₁ host₁ p buffer).buffer).buffer := by
  have hb' : (run c₁ host₁ p buffer).buffer.length % q.format.channels = 0 := by
    rw [length_run hb, hformat, hb]
  rw [run_of_whole c host (p.append q) hb, run_of_whole c₂ host₂ q hb',
    pixelsAfter_append hp hq hformat hset hb c c₁ c₂ host host₁ host₂]

/-- **One pass for two.** Two texts compile, for the same format, to programs without `rand`, and
the second program sets each variable before it reads it. Then the two texts with blanks between
them compile to both programs, one after the other, and applying them leaves the same buffer as
applying the first text and then the second one, whatever the settings and machines are. On whole
pixels all three applications succeed. -/
theorem apply_append_blanks {f : PixelFormat} {a b w : String} (hne : w ≠ "")
    (hw : ∀ c ∈ w.toList, Text.isBlank c) (ha : compile f a = .ok p) (hb : compile f b = .ok q)
    (hp : p.usesRandom = false) (hq : q.usesRandom = false) (hset : q.SetsBeforeReads)
    (c c₁ c₂ : Config) (host host₁ host₂ : Host) (pixels : Nat) (buffer : List Float) :
    let one := apply c host f (a ++ w ++ b) pixels buffer
    let first := apply c₁ host₁ f a pixels buffer
    let second := apply c₂ host₂ f b pixels first.buffer
    compile f (a ++ w ++ b) = .ok (p.append q) ∧ one.buffer = second.buffer ∧
      (pixels * f.channels < sizeLimit → buffer.length = pixels * f.channels →
        ∀ r ∈ [one, first, second], ∃ partitions, r.outcome = .ok { pixels, partitions }) := by
  intro one first second
  have hab := compile_append_blanks hne hw ha hb
  obtain ⟨-, hpf, -⟩ := compile_eq_ok_iff.mp ha
  obtain ⟨-, hqf, -⟩ := compile_eq_ok_iff.mp hb
  rcases Nat.lt_or_ge (pixels * f.channels) sizeLimit with hsize | hsize
  · by_cases hlength : buffer.length = pixels * f.channels
    · have hfirst : first = _ := apply_of_compile_eq_ok hsize hlength ha
      have hlength' : first.buffer.length = pixels * f.channels :=
        length_apply.trans hlength
      have hsecond : second = _ := apply_of_compile_eq_ok hsize hlength' hb
      have hone : one = _ := apply_of_compile_eq_ok hsize hlength hab
      refine ⟨hab, ?_, fun _ _ r hr => ?_⟩
      · rw [hone, hsecond, hfirst]
        refine run_append hp hq (hqf.trans hpf.symm) hset ?_ c c₁ c₂ host host₁ host₂
        rw [hpf, hlength, Nat.mul_mod_left]
      · simp only [List.mem_cons, List.not_mem_nil, or_false] at hr
        rcases hr with rfl | rfl | rfl
        · exact ⟨_, congrArg RunResult.outcome hone⟩
        · exact ⟨_, congrArg RunResult.outcome hfirst⟩
        · exact ⟨_, congrArg RunResult.outcome hsecond⟩
    · -- a buffer of another length is refused by all three
      refine ⟨hab, ?_, fun _ h => absurd h hlength⟩
      have hfirst : first = _ := apply_of_length_ne hsize hlength
      have hlength' : first.buffer.length ≠ pixels * f.channels := by rwa [hfirst]
      have hsecond : second = _ := apply_of_length_ne hsize hlength'
      have hone : one = _ := apply_of_length_ne hsize hlength
      rw [hone, hsecond, hfirst]
  · refine ⟨hab, ?_, fun h => absurd h hsize.not_gt⟩
    have hfirst : first = _ := apply_of_sizeLimit_le hsize
    have hsecond : second = _ := apply_of_sizeLimit_le hsize
    have hone : one = _ := apply_of_sizeLimit_le hsize
    rw [hone, hsecond, hfirst]

/-- The first text leaves red in a variable, which the second text sets before it combines it. -/
theorem apply_append_blanks_rgb :
    compile .rgb "v = r\nR + 1" =
        .ok ⟨.rgb, [⟨.scratch 0, .set, .slot (.channel 0)⟩,
          ⟨.channel 0, .add, .literal (.ofBits 0x3FF0000000000000)⟩]⟩ ∧
      compile .rgb "V1 abs g v + v b - v" =
        .ok ⟨.rgb, [⟨.scratch 0, .abs, .slot (.channel 1)⟩,
          ⟨.scratch 0, .add, .slot (.scratch 0)⟩,
          ⟨.channel 2, .sub, .slot (.scratch 0)⟩]⟩ ∧
      Program.SetsBeforeReads ⟨.rgb, [⟨.scratch 0, .abs, .slot (.channel 1)⟩,
        ⟨.scratch 0, .add, .slot (.scratch 0)⟩, ⟨.channel 2, .sub, .slot (.scratch 0)⟩]⟩ ∧
      (apply { threads := 2, minPartitionPixels := 1 } {} .rgb
          ("v = r\nR + 1" ++ " \n" ++ "V1 abs g v + v b - v") 2 [1, 2, 3, 4, 5, 6]).buffer =
        [2, 2, -1, 5, 5, -4] := by
  have ha : compile .rgb "v = r\nR + 1" =
      .ok ⟨.rgb, [⟨.scratch 0, .set, .slot (.channel 0)⟩,
        ⟨.channel 0, .add, .literal (.ofBits 0x3FF0000000000000)⟩]⟩ := by
    decide +kernel
  have hb : compile .rgb "V1 abs g v + v b - v" =
      .ok ⟨.rgb, [⟨.scratch 0, .abs, .slot (.channel 1)⟩,
        ⟨.scratch 0, .add, .slot (.scratch 0)⟩, ⟨.channel 2, .sub, .slot (.scratch 0)⟩]⟩ := by
    decide +kernel
  have hset : Program.SetsBeforeReads ⟨.rgb, [⟨.scratch 0, .abs, .slot (.channel 1)⟩,
      ⟨.scratch 0, .add, .slot (.scratch 0)⟩, ⟨.channel 2, .sub, .slot (.scratch 0)⟩]⟩ := by
    decide
  have hblank : " \n".toList.all Text.isBlank := by decide
  refine ⟨ha, hb, hset, ?_⟩
  rw [(apply_append_blanks (by decide) (List.all_eq_true.mp hblank) ha hb rfl rfl hset _ {} {} {} {}
    {} 2 [1, 2, 3, 4, 5, 6]).2.1]
  decide +kernel

/-- A program that reads what the one before it left tells one pass from two. -/
example :
    (apply {} {} .rgb ("v = r" ++ " " ++ "b + v") 1 [1, 2, 3]).buffer = [1, 2, 4] ∧
      (apply {} {} .rgb "b + v" 1 (apply {} {} .rgb "v = r" 1 [1, 2, 3]).buffer).buffer =
        [1, 2, 3] := by
  decide +kernel

end PixelMath.Engine
