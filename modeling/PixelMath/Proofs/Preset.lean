import PixelMath.Preset
import PixelMath.Proofs.Engine.Apply
import PixelMath.Proofs.Number.Finite
import PixelMath.Proofs.Program.Append
import PixelMath.Proofs.Program.Listing

/-!
# What presets compute

The parameters of a preset are doubles of any kind. They are moved into their range, which keeps the
numbers in the program text finite, and a finite double reads back from its text as it was. So the
text compiles, its literals are the doubles that were put into it, and the program works on every
pixel alone, by the formula of the preset.

## Main definitions

* `RunResult.Maps` — a run that works on each pixel of four channels alone.
* `Preset.Computes` — a preset with its program and its formula.

## Main results

* `compile_line_append` — the line of an instruction in front of a program text.
* `Preset.clamp_bounds` — a parameter in its range.
* `Preset.isFinite_boost`, `Preset.isFinite_divisor` — the numbers in the text.
* `Preset.presets_compute` — every preset computes its formula.
-/

namespace PixelMath

/-! ### A line in front of a text -/

section Line

variable {f : PixelFormat} {i : Instruction} {b : String} {q : Program}

theorem isBlank_of_mem_break : ∀ c ∈ "\n".toList, Text.isBlank c := by
  have hbreak : "\n".toList = ['\n'] := rfl
  rw [hbreak, List.forall_mem_singleton]
  decide

theorem compile_text (hi : i.Fits f.channels) (hx : ∀ x, i.operand = .literal x → x.isFinite) :
    compile f i.text = .ok ⟨f, [i]⟩ := by
  obtain ⟨s, p, hs, -, hscan⟩ := scan_line {} 0 (fun x h => isNaN_of_isFinite (hx x h)) []
  have hbreak := tokens_append_blanks i.text "" (by decide) isBlank_of_mem_break
  have htokens : tokens i.text = [s.target, s.operator, s.operand] := by
    have hnone : Token.scan p 3 [] = [] := Token.scan_of_dropWhile_eq_nil rfl
    have hempty : tokens "" = [] := Token.scan_of_dropWhile_eq_nil rfl
    rw [hempty, List.map_nil, List.append_nil] at hbreak
    have hsource : (i.text ++ "\n" ++ "").toList = i.text.toList ++ ['\n'] := by
      rw [String.append_empty, String.toList_append]
      rfl
    rw [← hbreak, tokens, hsource, hscan, hnone]
  rw [compile_eq_ok_iff, htokens]
  exact ⟨rfl, rfl, .cons (hs.compile_of_isFinite hi hx) .nil⟩

/-- The line of an instruction puts the instruction in front of a program. -/
theorem compile_line_append (hi : i.Fits f.channels)
    (hx : ∀ x, i.operand = .literal x → x.isFinite) (hb : compile f b = .ok q) :
    compile f (i.text ++ "\n" ++ b) = .ok ⟨f, i :: q.instructions⟩ :=
  compile_append_blanks (by decide) isBlank_of_mem_break (compile_text hi hx) hb

end Line

/-! ### Parameters in their range -/

namespace Preset

/-- A parameter is moved between the ends of its range. -/
theorem clamp_bounds {low high : Float} (hlow : low.isNaN = false) (hhigh : high.isNaN = false)
    (h : ¬ high < low) (x : Float) :
    (clamp low high x).isNaN = false ∧ ¬ clamp low high x < low ∧ ¬ high < clamp low high x := by
  rw [clamp]
  split_ifs with hnan hlt hgt
  · exact ⟨hlow, not_lt_self low, h⟩
  · exact ⟨hlow, not_lt_self low, h⟩
  · exact ⟨hhigh, h, not_lt_self high⟩
  · exact ⟨Bool.eq_false_iff.mpr hnan, hlt, hgt⟩

theorem bounds_filmicScale (scale : Float) :
    (filmicScale scale).isNaN = false ∧ ¬ filmicScale scale < 0.1 ∧ ¬ 1 < filmicScale scale :=
  clamp_bounds (by decide +kernel) (by decide +kernel) (by decide +kernel) scale

theorem bounds_filmicOffset (offset : Float) :
    (filmicOffset offset).isNaN = false ∧ ¬ filmicOffset offset < 0 ∧ ¬ 1 < filmicOffset offset :=
  clamp_bounds (by decide +kernel) (by decide +kernel) (by decide +kernel) offset

/-- The first number in the text is finite: neither of its summands is above one. -/
theorem isFinite_boost (offset : Float) : (1 + filmicOffset offset).isFinite := by
  obtain ⟨hnan, hlow, hhigh⟩ := bounds_filmicOffset offset
  have hone : (1 : Float).isFinite := by decide +kernel
  have hfinite := isFinite_of_not_lt hnan hlow hone hhigh
  have hexponent : (Binary.ofFloat 1).exponent = -52 := by decide +kernel
  have hle := exponent_le_of_not_lt hone hfinite (by decide +kernel) hlow hhigh
  exact isFinite_add hone hfinite (by omega) (by omega)

/-- The second number in the text is finite: its divisor is no zero, for the exponent of a tenth is
above the smallest one. -/
theorem isFinite_divisor (scale : Float) : (100 / filmicScale scale).isFinite := by
  obtain ⟨hnan, hlow, hhigh⟩ := bounds_filmicScale scale
  have hpos : (0 : Float) < 0.1 := by decide +kernel
  have hneg : ¬ filmicScale scale < 0 := fun h => hlow (lt_of_lt_zero_of_zero_lt h hpos)
  have hfinite := isFinite_of_not_lt hnan hneg (by decide +kernel) hhigh
  have htenth : (Binary.ofFloat 0.1).exponent = -56 := by decide +kernel
  have hhundred : (Binary.ofFloat 100).exponent = -46 := by decide +kernel
  have hle := exponent_le_of_not_lt hfinite (by decide +kernel) hneg (by decide +kernel) hlow
  refine isFinite_div (by decide +kernel) hfinite ?_ (by omega)
  rcases unpack_of_isFinite hfinite with ⟨-, hexponent, -⟩ | ⟨hmantissa, -⟩
  · rw [minExponent] at hexponent
    omega
  · exact hmantissa.ne'

/-! ### Programs of presets -/

/-- The lines of `filmicChroma` that load the lightness of a pixel, or what it lacks to a
hundred. -/
def lightnessText (invert : Bool) : String :=
  if invert then "v2 = 100\nv2 - l" else "v2 = l"

theorem compile_lightnessText (invert : Bool) :
    PixelMath.compile .lcha (lightnessText invert) =
      .ok ⟨.lcha, if invert then
          [⟨.scratch 1, .set, .literal 100⟩, ⟨.scratch 1, .sub, .slot (.channel 0)⟩]
        else [⟨.scratch 1, .set, .slot (.channel 0)⟩]⟩ := by
  cases invert <;> decide +kernel

theorem source_filmicChroma (scale offset : Float) (invert : Bool) :
    (filmicChroma scale offset invert).source =
      Instruction.text ⟨.scratch 0, .set, .literal (1 + filmicOffset offset)⟩ ++ "\n" ++
        (lightnessText invert ++ "\n" ++
          (Instruction.text ⟨.scratch 1, .div, .literal (100 / filmicScale scale)⟩ ++ "\n" ++
            "v1 - v2\nc * v1\n")) := by
  have hassign (x : Float) :
      Instruction.text ⟨.scratch 0, .set, .literal x⟩ = "v1 = " ++ floatText x :=
    congrArg (· ++ floatText x) (by decide : "v1" ++ " " ++ "=" ++ " " = "v1 = ")
  have hdivide (x : Float) :
      Instruction.text ⟨.scratch 1, .div, .literal x⟩ = "v2 / " ++ floatText x :=
    congrArg (· ++ floatText x) (by decide : "v2" ++ " " ++ "/" ++ " " = "v2 / ")
  have hlightness : (if invert then "v2 = 100\nv2 - l\n" else "v2 = l\n") =
      lightnessText invert ++ "\n" := by
    cases invert <;> decide
  have hend : "\nv1 - v2\nc * v1\n" = "\n" ++ "v1 - v2\nc * v1\n" := by decide
  simp only [filmicChroma, hassign, hdivide, hlightness, hend, toString, String.append_assoc]

/-- The text of `filmicChroma` compiles for every parameter, and no number in it changes. -/
theorem compile_filmicChroma (scale offset : Float) (invert : Bool) :
    (filmicChroma scale offset invert).compile =
      .ok ⟨.lcha, ⟨.scratch 0, .set, .literal (1 + filmicOffset offset)⟩ ::
        ((if invert then
            [⟨.scratch 1, .set, .literal 100⟩, ⟨.scratch 1, .sub, .slot (.channel 0)⟩]
          else [⟨.scratch 1, .set, .slot (.channel 0)⟩]) ++
          [⟨.scratch 1, .div, .literal (100 / filmicScale scale)⟩,
            ⟨.scratch 0, .sub, .slot (.scratch 1)⟩, ⟨.channel 1, .mul, .slot (.scratch 0)⟩])⟩ := by
  have hend : PixelMath.compile .lcha "v1 - v2\nc * v1\n" =
      .ok ⟨.lcha, [⟨.scratch 0, .sub, .slot (.scratch 1)⟩,
        ⟨.channel 1, .mul, .slot (.scratch 0)⟩]⟩ := by
    decide +kernel
  have hdivisor := compile_line_append (f := .lcha)
    (i := ⟨.scratch 1, .div, .literal (100 / filmicScale scale)⟩) ⟨trivial, trivial⟩
    (by rintro _ ⟨⟩; exact isFinite_divisor scale) hend
  have hlightness := compile_append_blanks (by decide) isBlank_of_mem_break
    (compile_lightnessText invert) hdivisor
  rw [compile, source_filmicChroma]
  exact compile_line_append (i := ⟨.scratch 0, .set, .literal (1 + filmicOffset offset)⟩)
    ⟨trivial, trivial⟩ (by rintro _ ⟨⟩; exact isFinite_boost offset) hlightness

end Preset

/-! ### Pixels that are worked on alone -/

/-- The run succeeds, the buffer keeps its length, and `work` says what becomes of the four channels
of each pixel. -/
structure RunResult.Maps (r : RunResult) (work : Float → Float → Float → Float → List Float)
    (buffer : List Float) : Prop where
  succeeds : ∃ stats, r.outcome = .ok stats
  length : r.buffer.length = buffer.length
  pixel : ∀ (k : Nat) (w x y z : Float), (groups 4 buffer)[k]? = some [w, x, y, z] →
    (groups 4 r.buffer)[k]? = some (work w x y z)

/-- The preset compiles to the program, and both the program and the text do the work on every
buffer of whole pixels, for any settings and on any machine. -/
structure Preset.Computes (preset : Preset) (p : Program)
    (work : Float → Float → Float → Float → List Float) : Prop where
  compiles : preset.compile = .ok p
  run : ∀ (c : Config) (host : Host) (buffer : List Float), buffer.length % 4 = 0 →
    (Engine.run c host p buffer).Maps work buffer
  apply : ∀ (c : Config) (host : Host) (pixels : Nat) (buffer : List Float),
    pixels * 4 < sizeLimit → buffer.length = pixels * 4 →
      (Engine.apply c host preset.format preset.source pixels buffer).Maps work buffer

section Work

variable {p : Program} {work : Float → Float → Float → Float → List Float}

theorem Engine.maps_run (hchannels : p.format.channels = 4) (hrandom : p.usesRandom = false)
    (hwork : ∀ samples carry w x y z, (p.runPixel samples [w, x, y, z] carry).1 = work w x y z)
    (c : Config) (host : Host) {buffer : List Float} (hb : buffer.length % 4 = 0) :
    (run c host p buffer).Maps work buffer := by
  rw [← hchannels] at hb
  refine ⟨⟨_, congrArg RunResult.outcome (run_of_whole c host p hb)⟩, length_run hb,
    fun k w x y z hk => ?_⟩
  have hgroups := groups_run c host p hb
  rw [pixelsAfter_of_not_usesRandom c host hrandom (c.samples host 0) {}, hchannels] at hgroups
  rw [hgroups, List.getElem?_map, hk, Option.map_some, hwork]

/-- A preset computes what its program does to a pixel, if it takes no samples. -/
theorem Preset.computes_of_runPixel {preset : Preset} (hcompile : preset.compile = .ok p)
    (hchannels : preset.format.channels = 4) (hrandom : p.usesRandom = false)
    (hwork : ∀ samples carry w x y z, (p.runPixel samples [w, x, y, z] carry).1 = work w x y z) :
    preset.Computes p work := by
  obtain ⟨-, hformat, -⟩ := compile_eq_ok_iff.mp hcompile
  have hrun (c : Config) (host : Host) {buffer : List Float} (hb : buffer.length % 4 = 0) :=
    Engine.maps_run (hformat ▸ hchannels) hrandom hwork c host hb
  refine ⟨hcompile, fun c host buffer hb => hrun c host hb,
    fun c host pixels buffer hsize hlength => ?_⟩
  have hmaps := hrun c host (hlength ▸ Nat.mul_mod_left pixels 4)
  rw [← hchannels] at hsize hlength
  have happly : Engine.apply c host preset.format preset.source pixels buffer = _ :=
    Engine.apply_of_compile_eq_ok hsize hlength hcompile
  rw [happly]
  exact ⟨⟨_, rfl⟩, hmaps.length, hmaps.pixel⟩

end Work

namespace Preset

/-- **Every preset computes its formula.** A parameter of `filmicChroma` is any double: a NaN
becomes the low end of its range, and what lies outside is moved to the nearer end. The numbers that
come of them are finite and stand in the compiled program as they are. Each pixel keeps its
lightness, hue and alpha; its chroma is multiplied by the boost less a share of the lightness, or
with `invert` of what lightness lacks to a hundred. `filmicSaturation` keeps the same channels, and
`invertLightness` all but lightness. -/
theorem presets_compute :
    (∀ (scale offset : Float) (invert : Bool),
      let s := if scale.isNaN then 0.1 else if scale < 0.1 then 0.1 else if 1 < scale then 1
        else scale
      let o := if offset.isNaN then 0 else if offset < 0 then 0 else if 1 < offset then 1
        else offset
      let boost := 1 + o
      let divisor := 100 / s
      boost.isFinite ∧ divisor.isFinite ∧ (filmicChroma scale offset invert).format = .lcha ∧
        (filmicChroma scale offset invert).Computes
          ⟨.lcha, ⟨.scratch 0, .set, .literal boost⟩ ::
            ((if invert then
                [⟨.scratch 1, .set, .literal 100⟩, ⟨.scratch 1, .sub, .slot (.channel 0)⟩]
              else [⟨.scratch 1, .set, .slot (.channel 0)⟩]) ++
              [⟨.scratch 1, .div, .literal divisor⟩, ⟨.scratch 0, .sub, .slot (.scratch 1)⟩,
                ⟨.channel 1, .mul, .slot (.scratch 0)⟩])⟩
          fun l c h a =>
            [l, c * (boost - (if invert then 100 - l else l) / divisor), h, a]) ∧
      filmicSaturation.format = .lcha ∧
      filmicSaturation.Computes
        ⟨.lcha, [⟨.scratch 0, .set, .slot (.channel 0)⟩, ⟨.scratch 0, .mul, .slot (.channel 1)⟩,
          ⟨.scratch 0, .div, .literal 100⟩, ⟨.channel 1, .sub, .slot (.scratch 0)⟩]⟩
        (fun l c h a => [l, c - l * c / 100, h, a]) ∧
      invertLightness.format = .hsla ∧
      invertLightness.Computes
        ⟨.hsla, [⟨.scratch 0, .set, .slot (.channel 2)⟩, ⟨.channel 2, .set, .literal 1⟩,
          ⟨.channel 2, .sub, .slot (.scratch 0)⟩]⟩
        fun h s l a => [h, s, 1 - l, a] := by
  refine ⟨fun scale offset invert => ⟨isFinite_boost offset, isFinite_divisor scale, rfl, ?_⟩,
    rfl, ?_, rfl, ?_⟩
  · refine computes_of_runPixel (compile_filmicChroma scale offset invert) rfl ?_
      fun samples carry l c h a => ?_
    · cases invert <;> rfl
    · cases invert <;> rfl
  · refine computes_of_runPixel ?_ rfl rfl fun _ _ _ _ _ _ => rfl
    decide +kernel
  · refine computes_of_runPixel ?_ rfl rfl fun _ _ _ _ _ _ => rfl
    decide +kernel

/-- A scale that is no number is taken as a tenth, and an infinite offset as one. -/
theorem presets_compute_nan :
    (groups 4 (Engine.apply {} {} .lcha (filmicChroma (0 / 0) (1 / 0) true).source 1
      [20, 30, 120, 1]).buffer)[0]? = some [20, 30 * (2 - (100 - 20) / 1000), 120, 1] := by
  have hwork := (presets_compute.1 (0 / 0) (1 / 0) true).2.2.2.apply {} {} 1 [20, 30, 120, 1]
    (by decide) rfl
  refine (hwork.pixel 0 20 30 120 1 (by decide +kernel)).trans ?_
  decide +kernel

end Preset

end PixelMath
