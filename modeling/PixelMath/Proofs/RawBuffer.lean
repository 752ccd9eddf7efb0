import PixelMath.Proofs.Groups
import PixelMath.Proofs.Number.Layout
import PixelMath.RawBuffer

/-!
# Raw buffers there and back

Eight bytes are the digits, to the base 256 and the lowest first, of a word, and the word is the
pattern of a double. Bytes and words determine each other, and so do words and doubles, except that
every pattern of no number is read as one and the same double. So whole groups of eight bytes are
read as doubles that are written as these bytes again, up to the patterns of no number, and doubles
are written as bytes that are read as these doubles.

## Main definitions

* `RawBuffer.group` — eight bytes by their number, `RawBuffer.number` the word that they give.
* `RawBuffer.IsPattern` — the patterns of a double.

## Main results

* `RawBuffer.decode_eq_ok_iff`, `RawBuffer.decode_eq_error_iff` — which bytes can be read.
* `RawBuffer.ofBytes_toBytes`, `RawBuffer.toBytes_ofBytes` — bytes and words.
* `RawBuffer.decode_encode` — doubles that are written and read again.
* `RawBuffer.raw_buffer_round_trip` — both round trips.
-/

namespace PixelMath.RawBuffer

/-! ### Reading -/

theorem decode_eq_ok_iff {bytes : List UInt8} {values : List Float} :
    decode bytes = .ok values ↔ bytes.length % 8 = 0 ∧
      values = (wholeGroups 8 bytes).map fun group => Float.ofBits (ofBytes group) := by
  rw [decode]
  split
  · next h => simp only [Except.ok.injEq, h, true_and, eq_comm]
  · next h => simp only [h, false_and, reduceCtorEq]

theorem decode_eq_error_iff {bytes : List UInt8} {e : Ragged} :
    decode bytes = .error e ↔ bytes.length % 8 ≠ 0 ∧ e = ⟨bytes.length⟩ := by
  rw [decode]
  split
  · next h => simp only [h, ne_eq, not_true_eq_false, false_and, reduceCtorEq]
  · next h => simp only [Except.error.injEq, h, ne_eq, not_false_eq_true, true_and, eq_comm]

theorem length_of_decode {bytes : List UInt8} {values : List Float}
    (h : decode bytes = .ok values) : values.length = bytes.length / 8 := by
  obtain ⟨hb, rfl⟩ := decode_eq_ok_iff.mp h
  rw [List.length_map, wholeGroups_of_whole hb, length_groups_of_whole (by decide) hb]

theorem size_of_decode {bytes : ByteArray} {values : List Float}
    (h : decode bytes.data.toList = .ok values) : bytes.size = 8 * values.length := by
  have hlength : values.length = bytes.size / 8 := length_of_decode h
  have hwhole : bytes.size % 8 = 0 := (decode_eq_ok_iff.mp h).1
  rw [hlength, Nat.mul_div_cancel' (Nat.dvd_of_mod_eq_zero hwhole)]

theorem exists_decode {bytes : ByteArray} (hb : bytes.size % 8 = 0) :
    ∃ values, decode bytes.data.toList = .ok values ∧ values.length = bytes.size / 8 := by
  have hv := decode_eq_ok_iff.mpr ⟨hb, rfl⟩
  exact ⟨_, hv, length_of_decode hv⟩

theorem exists_decode_of_whole {bytes : ByteArray} {n : Nat} (hb : bytes.size % (8 * n) = 0) :
    ∃ values, decode bytes.data.toList = .ok values ∧ values.length = bytes.size / 8 :=
  exists_decode (Nat.mod_eq_zero_of_dvd (dvd_of_mul_right_dvd (Nat.dvd_of_mod_eq_zero hb)))

/-- The doubles of some bytes form whole pixels when the bytes do. -/
theorem length_mod_eq_zero_iff {bytes : ByteArray} {values : List Float}
    (h : decode bytes.data.toList = .ok values) (n : Nat) :
    values.length % n = 0 ↔ bytes.size % (8 * n) = 0 := by
  have hbytes : bytes.size % 8 = 0 := (decode_eq_ok_iff.mp h).1
  have hlength : values.length = bytes.size / 8 := length_of_decode h
  rw [hlength, Nat.mod_mul, hbytes]
  omega

/-! ### Bytes and words -/

/-- The number with the given bytes as its digits, the lowest first. -/
def number (bytes : List UInt8) : Nat :=
  Nat.ofDigits 256 (bytes.map UInt8.toNat)

theorem number_cons (b : UInt8) (bytes : List UInt8) :
    number (b :: bytes) = b.toNat + 256 * number bytes := by
  rw [number, List.map_cons, Nat.ofDigits_cons]
  rfl

theorem digit_lt (bytes : List UInt8) : ∀ d ∈ bytes.map UInt8.toNat, d < 256 := by
  intro d hd
  obtain ⟨b, -, rfl⟩ := List.mem_map.mp hd
  exact b.toNat_lt

theorem number_lt (bytes : List UInt8) : number bytes < 256 ^ bytes.length := by
  simpa only [number, List.length_map] using
    Nat.ofDigits_lt_base_pow_length (by decide : 1 < 256) (digit_lt bytes)

/-- As many bytes with the same number are the same bytes. -/
theorem eq_of_number_eq {bytes bytes' : List UInt8} (hlength : bytes.length = bytes'.length)
    (h : number bytes = number bytes') : bytes = bytes' := by
  have hdigits := Nat.ofDigits_inj_of_len_eq (by decide : 1 < 256)
    (by simpa only [List.length_map] using hlength) (digit_lt bytes) (digit_lt bytes') h
  exact List.map_injective_iff.mpr (fun _ _ => UInt8.toNat_inj.mp) hdigits

/-- Eight bytes at most are the word with their number. -/
theorem toNat_ofBytes {bytes : List UInt8} (h : bytes.length ≤ 8) :
    (ofBytes bytes).toNat = number bytes := by
  induction bytes with
  | nil => rfl
  | cons b bytes ih =>
    rw [List.length_cons] at h
    have hlt : number (b :: bytes) < 256 ^ 8 :=
      (number_lt _).trans_le (Nat.pow_le_pow_right (by decide) h)
    have hstep : ofBytes (b :: bytes) = ofBytes bytes * 256 + b.toUInt64 := rfl
    have hbase : (256 : UInt64).toNat = 256 := rfl
    rw [number_cons] at hlt ⊢
    rw [hstep, UInt64.toNat_add, UInt64.toNat_mul, ih (by omega), UInt8.toNat_toUInt64, hbase]
    omega

/-- The lowest bytes of a word give what is left of it below their weight. -/
theorem number_toBytes (n : Nat) (w : UInt64) : number (toBytes n w) = w.toNat % 256 ^ n := by
  induction n generalizing w with
  | zero => rw [pow_zero, Nat.mod_one]; rfl
  | succ n ih =>
    have hquotient : (w / 256).toNat = w.toNat / 256 := UInt64.toNat_div w 256
    have hmod : w.toNat % 256 ^ (n + 1) = w.toNat % 256 + 256 * (w.toNat / 256 % 256 ^ n) := by
      rw [Nat.pow_succ', Nat.mod_mul]
    rw [toBytes, number_cons, ih, hquotient, UInt64.toNat_toUInt8]
    exact hmod.symm

/-- **The bytes of a word give the word.** -/
theorem ofBytes_toBytes (w : UInt64) : ofBytes (toBytes 8 w) = w := by
  refine UInt64.toNat_inj.mp ?_
  rw [toNat_ofBytes (length_toBytes 8 w).le, number_toBytes]
  exact Nat.mod_eq_of_lt w.toNat_lt

/-- **Eight bytes are those of the word that they give.** -/
theorem toBytes_ofBytes {bytes : List UInt8} (h : bytes.length = 8) :
    toBytes 8 (ofBytes bytes) = bytes := by
  refine eq_of_number_eq ((length_toBytes 8 _).trans h.symm) ?_
  rw [number_toBytes, toNat_ofBytes h.le]
  exact Nat.mod_eq_of_lt ((number_lt bytes).trans_eq (by rw [h]))

/-! ### Groups of eight bytes -/

/-- The bytes from place `8 * i` to place `8 * i + 7`. -/
def group (bytes : List UInt8) (i : Nat) : List UInt8 :=
  (bytes.drop (8 * i)).take 8

/-- The pattern is that of no number: the last exponent field and a fraction. -/
def IsNaNPattern (n : Nat) : Prop :=
  infinityBits < n % signUnit

instance : DecidablePred IsNaNPattern := fun _ => inferInstanceAs (Decidable (_ < _))

/-- The pattern is one of the double: its bits or, if the double is no number, some pattern of no
number. -/
def IsPattern (n : Nat) (x : Float) : Prop :=
  n = x.toBits.toNat ∨ IsNaNPattern n ∧ x.isNaN

theorem isPattern_ofBits (w : UInt64) : IsPattern w.toNat (Float.ofBits w) := by
  by_cases h : IsNaNPattern w.toNat
  · exact .inr ⟨h, isNaN_ofBits h⟩
  · exact .inl (by rw [toBits_ofBits (Nat.le_of_not_lt h)])

theorem isNaNPattern_toBits_iff (x : Float) : IsNaNPattern x.toBits.toNat ↔ x.isNaN :=
  (isNaN_iff x).symm

variable {bytes : List UInt8} {values : List Float} {i : Nat} {x : Float}

theorem getElem?_groups_eight (hi : 8 * i < bytes.length) :
    (groups 8 bytes)[i]? = some (group bytes i) := by
  rw [getElem?_groups (by decide), Nat.mul_comm, if_pos hi, group, Nat.mul_comm]

theorem length_group (hb : bytes.length % 8 = 0) (hi : 8 * i < bytes.length) :
    (group bytes i).length = 8 :=
  length_of_mem_groups (by decide) hb (List.mem_of_getElem? (getElem?_groups_eight hi))

/-- Reading makes a double of each group of eight bytes. -/
theorem getElem?_of_decode (h : decode bytes = .ok values) (hx : values[i]? = some x) :
    8 * i < bytes.length ∧ x = Float.ofBits (ofBytes (group bytes i)) := by
  have hlength := length_of_decode h
  obtain ⟨hb, rfl⟩ := decode_eq_ok_iff.mp h
  obtain ⟨hi, -⟩ := List.getElem?_eq_some_iff.mp hx
  have hlt : 8 * i < bytes.length := by omega
  rw [List.getElem?_map, wholeGroups_of_whole hb, getElem?_groups_eight hlt] at hx
  exact ⟨hlt, (Option.some.inj hx).symm⟩

/-- Writing makes a group of eight bytes of each double. -/
theorem groups_encode (values : List Float) :
    groups 8 (encode values) = values.map fun x => toBytes 8 x.toBits := by
  rw [encode, List.flatMap_def, groups_flatten (by decide)]
  intro group hgroup
  obtain ⟨x, -, rfl⟩ := List.mem_map.mp hgroup
  exact length_toBytes 8 _

theorem group_encode (hx : values[i]? = some x) : group (encode values) i = toBytes 8 x.toBits := by
  have hi : 8 * i < (encode values).length := by
    obtain ⟨hi, -⟩ := List.getElem?_eq_some_iff.mp hx
    rw [length_encode]
    omega
  have hgroup := getElem?_groups_eight hi
  rw [groups_encode, List.getElem?_map, hx] at hgroup
  exact (Option.some.inj hgroup).symm

/-! ### Round trips -/

/-- **Doubles that are written can be read again**, and are the same. -/
theorem decode_encode (values : List Float) : decode (encode values) = .ok values := by
  have hb : (encode values).length % 8 = 0 := by rw [length_encode, Nat.mul_mod_right]
  refine decode_eq_ok_iff.mpr ⟨hb, ?_⟩
  rw [wholeGroups_of_whole hb, groups_encode, List.map_map]
  have hread : (fun group => Float.ofBits (ofBytes group)) ∘ (fun x : Float => toBytes 8 x.toBits) =
      id := by
    funext x
    rw [Function.comp_apply, ofBytes_toBytes, Float.ofBits_toBits, id]
  rw [hread, List.map_id]

/-- Each double that is read has the pattern that its bytes give. -/
theorem isPattern_of_decode (h : decode bytes = .ok values) (hx : values[i]? = some x) :
    IsPattern (number (group bytes i)) x := by
  obtain ⟨hi, rfl⟩ := getElem?_of_decode h hx
  have hlength := length_group (decode_eq_ok_iff.mp h).1 hi
  rw [← toNat_ofBytes hlength.le]
  exact isPattern_ofBits _

/-- The bytes of a number are those of the double that is read from them. -/
theorem toBytes_toBits_ofBits {bytes : List UInt8} (hlength : bytes.length = 8)
    (hn : ¬ (Float.ofBits (ofBytes bytes)).isNaN) :
    toBytes 8 (Float.ofBits (ofBytes bytes)).toBits = bytes := by
  have hpattern : ¬ IsNaNPattern (ofBytes bytes).toNat := mt isNaN_ofBits hn
  rw [toBits_ofBits (Nat.le_of_not_lt hpattern), toBytes_ofBytes hlength]

/-- Eight bytes that are read and written again are the same, or both are those of no number. -/
theorem group_encode_of_decode (h : decode bytes = .ok values) (hx : values[i]? = some x) :
    group (encode values) i = group bytes i ∨
      IsNaNPattern (number (group bytes i)) ∧ IsNaNPattern (number (group (encode values) i)) := by
  have hpattern := isPattern_of_decode h hx
  have hwritten : number (group (encode values) i) = x.toBits.toNat := by
    rw [group_encode hx, number_toBytes]
    exact Nat.mod_eq_of_lt x.toBits.toNat_lt
  obtain ⟨hi, hread⟩ := getElem?_of_decode h hx
  have hlength := length_group (decode_eq_ok_iff.mp h).1 hi
  rcases hpattern with hbits | ⟨hnan, hx'⟩
  · refine .inl (eq_of_number_eq ?_ (hwritten.trans hbits.symm))
    rw [group_encode hx, length_toBytes, hlength]
  · exact .inr ⟨hnan, hwritten ▸ (isNaNPattern_toBits_iff x).mpr hx'⟩

/-- **Bytes that are read and written again** are the same where each of the doubles is a number. -/
theorem encode_of_decode (h : decode bytes = .ok values) (hn : ∀ x ∈ values, x.isNaN = false) :
    encode values = bytes := by
  obtain ⟨hb, rfl⟩ := decode_eq_ok_iff.mp h
  rw [wholeGroups_of_whole hb] at hn ⊢
  have hgroup (g : List UInt8) (hg : g ∈ groups 8 bytes) :
      toBytes 8 (Float.ofBits (ofBytes g)).toBits = g :=
    toBytes_toBits_ofBits (length_of_mem_groups (by decide) hb hg)
      (Bool.not_eq_true _ ▸ hn _ (List.mem_map_of_mem hg))
  calc encode ((groups 8 bytes).map fun g => Float.ofBits (ofBytes g))
      = ((groups 8 bytes).map fun g => toBytes 8 (Float.ofBits (ofBytes g)).toBits).flatten := by
        rw [encode, List.flatMap_def, List.map_map]
        rfl
    _ = ((groups 8 bytes).map id).flatten := congrArg List.flatten (List.map_congr_left hgroup)
    _ = bytes := by rw [List.map_id, flatten_groups (by decide)]

/-- **Raw buffers keep what they hold.** Bytes can be read exactly if there are eight for each
double. Double `i` is then the one whose bits are the bytes from place `8 * i` to place `8 * i + 7`,
the lowest first, and writing the doubles gives the bytes back: all of them if each double is a
number, and otherwise all but those of no number, which stay such. Doubles that are written can be
read again, and are the same. -/
theorem raw_buffer_round_trip :
    (∀ bytes : List UInt8,
      ((∃ values, decode bytes = .ok values) ↔ bytes.length % 8 = 0) ∧
        ∀ values, decode bytes = .ok values →
          values.length = bytes.length / 8 ∧ (encode values).length = bytes.length ∧
            (∀ (i : Nat) (x : Float), values[i]? = some x →
              IsPattern (number (group bytes i)) x ∧
                (group (encode values) i = group bytes i ∨
                  IsNaNPattern (number (group bytes i)) ∧
                    IsNaNPattern (number (group (encode values) i)))) ∧
            ((∀ x ∈ values, x.isNaN = false) → encode values = bytes)) ∧
      ∀ values, decode (encode values) = .ok values := by
  refine ⟨fun bytes => ⟨⟨?_, ?_⟩, fun values h => ?_⟩, decode_encode⟩
  · rintro ⟨values, h⟩
    exact (decode_eq_ok_iff.mp h).1
  · exact fun hb => ⟨_, decode_eq_ok_iff.mpr ⟨hb, rfl⟩⟩
  · have hb := (decode_eq_ok_iff.mp h).1
    have hlength := length_of_decode h
    refine ⟨hlength, ?_, fun i x hx => ?_, encode_of_decode h⟩
    · rw [length_encode, hlength, Nat.mul_div_cancel' (Nat.dvd_of_mod_eq_zero hb)]
    · exact ⟨isPattern_of_decode h hx, group_encode_of_decode h hx⟩

end PixelMath.RawBuffer
