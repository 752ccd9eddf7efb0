import PixelMath.Proofs.Pixel.Width
import PixelMath.Proofs.Program.Language

/-!
# Formats with further channels

A format may have channels behind those of another one. Then every name of the smaller format is a
name of the larger one and means the same there, so programs of the smaller format are programs of
the larger one, and they leave the further channels alone.

## Main definitions

* `PixelFormat.Extension` — the pairs of such formats.

## Main results

* `Slot.Named.extend`, `Operand.Written.extend` — names keep their meaning.
* `compile_extension` — programs keep theirs.
-/

namespace PixelMath

namespace PixelFormat

/-- The second format has the channels of the first one in front: alpha is added, or a format
without letters is given any format with at least as many channels. -/
inductive Extension : PixelFormat → PixelFormat → Prop
  | rgb : Extension .rgb .rgba
  | hsl : Extension .hsl .hsla
  | lab : Extension .lab .laba
  | lch : Extension .lch .lcha
  | raw3 (g : PixelFormat) : Extension .raw3 g
  | raw4 {g : PixelFormat} (hg : g.channels = 4) : Extension .raw4 g

variable {f g : PixelFormat}

theorem Extension.letters_isPrefix (h : Extension f g) : f.letters <+: g.letters := by
  cases h with
  | rgb | hsl | lab | lch => decide
  | raw3 | raw4 => exact List.nil_prefix

theorem Extension.channels_le (h : Extension f g) : f.channels ≤ g.channels := by
  cases h with
  | rgb | hsl | lab | lch => decide
  | raw3 => cases g <;> decide
  | raw4 hg => exact hg.ge

end PixelFormat

open PixelFormat

variable {f g : PixelFormat} {name : String}

/-! ### Names -/

/-- A slot keeps its name. A letter that is given twice is one of the smaller format already, and
its first channel counts in both. -/
theorem Slot.Named.extend (h : Extension f g) {s : Slot} (hs : s.Named f name) :
    s.Named g name := by
  cases hs with
  | @letter c i hc hfirst =>
    have hi : i.val < f.letters.length := (List.getElem?_eq_some_iff.mp hc).1
    have hletters (j : Nat) (hj : j < f.letters.length) : g.letters[j]? = f.letters[j]? := by
      obtain ⟨behind, hg⟩ := h.letters_isPrefix
      rw [← hg, List.getElem?_append_left hj]
    refine .letter ((hletters _ hi).trans hc) fun j hj => ?_
    rw [hletters j (hj.trans hi)]
    exact hfirst j hj
  | positional hi => exact .positional (hi.trans_le h.channels_le)
  | short => exact .short
  | scratch i => exact .scratch i

theorem Operand.Written.extend (h : Extension f g) {o : Operand} (ho : o.Written f name) :
    o.Written g name := by
  cases ho with
  | slot hs => exact .slot (hs.extend h)
  | constant c => exact .constant c
  | literal hd => exact .literal hd

theorem Instruction.IsOfTokens.extend (h : Extension f g) {ts : List Token} {k : Nat}
    {i : Instruction} (hi : i.IsOfTokens f ts k) : i.IsOfTokens g ts k := by
  obtain ⟨target, operator, operand, ht, hop, ho, hslot, hspelling, hwritten⟩ := hi
  exact ⟨target, operator, operand, ht, hop, ho, hslot.extend h, hspelling, hwritten.extend h⟩

/-! ### Programs -/

variable {source : String} {p : Program}

/-- **Further channels change no program.** A text that compiles for a format compiles for an
extension of it, to the same instructions. On a pixel of the extension these do to the channels in
front what they do to a pixel of the format, take the same samples, and leave the further channels
as they are. -/
theorem compile_extension (h : Extension f g) (hp : compile f source = .ok p) :
    ∃ q, compile g source = .ok q ∧ q.instructions = p.instructions ∧
      ∀ (samples : Sample.Stream) (pixel : List Float) (carry : Carry),
        pixel.length = g.channels →
        (q.runPixel samples pixel carry).1.take f.channels =
            (p.runPixel samples (pixel.take f.channels) carry).1 ∧
          (q.runPixel samples pixel carry).1.drop f.channels = pixel.drop f.channels ∧
          (q.runPixel samples pixel carry).2 =
            (p.runPixel samples (pixel.take f.channels) carry).2 := by
  obtain ⟨hlength, hformat, hcount, hall⟩ := compile_eq_ok_iff_isOfTokens.mp hp
  refine ⟨{ p with format := g }, ?_, rfl, fun samples pixel carry hpixel => ?_⟩
  · exact compile_eq_ok_iff_isOfTokens.mpr
      ⟨hlength, rfl, hcount, fun k i hi => (hall k i hi).extend h⟩
  · have hwidth : (pixel.take f.channels).length = f.channels :=
      List.length_take_of_le (hpixel ▸ h.channels_le)
    have hfits : ∀ i ∈ p.instructions, i.Fits (pixel.take f.channels).length := fun i hi => by
      rw [hwidth]
      exact fits_of_compile hp hi
    have hlen := (p.length_runPixel samples (pixel.take f.channels) carry).trans hwidth
    -- the pixel is one of the smaller format with the further channels behind it
    have hrun := Program.runPixel_append samples carry hfits (pixel.drop f.channels)
    rw [List.take_append_drop] at hrun
    have hsame : ({ p with format := g } : Program).runPixel = p.runPixel :=
      Program.runPixel_congr rfl
    rw [hsame, hrun]
    exact ⟨List.take_left' hlen, List.drop_left' hlen, rfl⟩

/-- In a pixel with alpha, `a` still names the second channel, and alpha is not touched. -/
theorem compile_extension_laba :
    Extension .lab .laba ∧
      compile .lab "A = c3\nv - 2 c1 * V1" =
        .ok ⟨.lab, [⟨.channel 1, .set, .slot (.channel 2)⟩,
          ⟨.scratch 0, .sub, .literal (.ofBits 0x4000000000000000)⟩,
          ⟨.channel 0, .mul, .slot (.scratch 0)⟩]⟩ ∧
      ∃ q, compile .laba "A = c3\nv - 2 c1 * V1" = .ok q ∧
        (q.runPixel (fun _ => 0) [1, 2, 3, 4] {}).1 = [-2, 3, 3, 4] := by
  have hp : compile .lab "A = c3\nv - 2 c1 * V1" =
      .ok ⟨.lab, [⟨.channel 1, .set, .slot (.channel 2)⟩,
        ⟨.scratch 0, .sub, .literal (.ofBits 0x4000000000000000)⟩,
        ⟨.channel 0, .mul, .slot (.scratch 0)⟩]⟩ := by
    decide +kernel
  obtain ⟨q, hq, -, hrun⟩ := compile_extension .lab hp
  obtain ⟨hfront, hbehind, -⟩ := hrun (fun _ => 0) [1, 2, 3, 4] {} rfl
  refine ⟨.lab, hp, q, hq, ?_⟩
  rw [← List.take_append_drop 3 (q.runPixel _ _ _).1]
  refine (congrArg₂ (· ++ ·) hfront hbehind).trans ?_
  decide +kernel

end PixelMath
