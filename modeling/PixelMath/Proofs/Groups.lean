import Mathlib.Data.List.Basic
import Mathlib.Data.Nat.Basic
import Mathlib.Order.Basic
import PixelMath.Engine.Partition
import PixelMath.Groups

/-!
# Positions of groups

Group `k` of a list holds the elements from position `k * n` on, so groups of a multiple of `n`
elements are runs of groups of `n`. This is what makes a partition a run of whole pixels.

## Main results

* `getElem?_groups`, `length_groups` — the groups by their number.
* `groups_append`, `groups_flatten` — groups of whole pieces.
* `wholeGroups_append`, `leftover_append` — whole groups, and what they leave, behind whole pieces.
* `length_flatten_mapIdx_groups`, `getElem?_flatten_mapIdx_groups` — work on each group that keeps
  its length, or a position in it.
* `flatten_mapIdx_groups_mul` — group `k` of a list is group `k % q` in the piece `k / q` of `q`
  groups.
-/

namespace PixelMath

universe u v

variable {α : Type u} {β : Type v} {n : Nat}

theorem groups_of_ne_nil (hn : 0 < n) {xs : List α} (hx : xs ≠ []) :
    groups n xs = xs.take n :: groups n (xs.drop n) := by
  rw [groups_eq, if_neg (not_or.mpr ⟨hn.ne', hx⟩)]

/-! ### Groups by their number -/

theorem getElem?_groups (hn : 0 < n) (xs : List α) (k : Nat) :
    (groups n xs)[k]? = if k * n < xs.length then some ((xs.drop (k * n)).take n) else none := by
  induction k generalizing xs with
  | zero =>
    rcases eq_or_ne xs [] with rfl | hx
    · simp
    · have hpos := List.length_pos_iff.mpr hx
      simp [groups_of_ne_nil hn hx, hpos]
  | succ k ih =>
    rcases eq_or_ne xs [] with rfl | hx
    · simp
    · rw [groups_of_ne_nil hn hx, List.getElem?_cons_succ, ih, List.length_drop, List.drop_drop,
        Nat.succ_mul, Nat.add_comm n]
      exact if_congr (by omega) rfl rfl

theorem lt_ceilDiv_iff (hn : 0 < n) {a k : Nat} : k < ceilDiv a n ↔ k * n < a := by
  rw [← not_le, ← not_le, ceilDiv_le_iff hn]

/-- There is a group for every `n` elements, and one for what remains. -/
theorem length_groups (hn : 0 < n) (xs : List α) :
    (groups n xs).length = ceilDiv xs.length n := by
  refine eq_of_forall_lt_iff fun k => ?_
  rw [lt_ceilDiv_iff hn, ← not_le, ← List.getElem?_eq_none_iff, getElem?_groups hn]
  split <;> simp_all

/-- A list of `k` whole groups has `k` groups. -/
theorem length_groups_of_whole (hn : 0 < n) {xs : List α} (hx : xs.length % n = 0) :
    (groups n xs).length = xs.length / n := by
  refine eq_of_forall_lt_iff fun k => ?_
  rw [length_groups hn, lt_ceilDiv_iff hn,
    Nat.lt_div_iff_mul_lt_of_dvd hn.ne' (Nat.dvd_of_mod_eq_zero hx)]

/-! ### Groups of whole pieces -/

theorem length_drop_mod (xs : List α) (hx : xs.length % n = 0) : (xs.drop n).length % n = 0 := by
  rw [List.length_drop]
  rcases le_total n xs.length with hle | hle
  · rwa [← Nat.mod_eq_sub_mod hle]
  · rw [Nat.sub_eq_zero_of_le hle, Nat.zero_mod]

theorem le_length_of_whole {xs : List α} (hne : xs ≠ []) (hx : xs.length % n = 0) :
    n ≤ xs.length :=
  Nat.le_of_dvd (List.length_pos_iff.mpr hne) (Nat.dvd_of_mod_eq_zero hx)

theorem groups_append (hn : 0 < n) (xs ys : List α) (hx : xs.length % n = 0) :
    groups n (xs ++ ys) = groups n xs ++ groups n ys := by
  induction hk : xs.length using Nat.strongRecOn generalizing xs with
  | ind k ih =>
    rcases eq_or_ne xs [] with rfl | hne
    · simp
    · have hle := le_length_of_whole hne hx
      have hlt : (xs.drop n).length < k := by
        rw [List.length_drop]
        omega
      rw [groups_of_ne_nil hn (by simp [hne]), groups_of_ne_nil hn hne,
        List.take_append_of_le_length hle, List.drop_append_of_le_length hle,
        ih _ hlt _ (length_drop_mod xs hx) rfl, List.cons_append]

/-- Each group of a list of whole groups is whole. -/
theorem length_of_mem_groups (hn : 0 < n) {xs group : List α} (hx : xs.length % n = 0)
    (hg : group ∈ groups n xs) : group.length = n := by
  obtain ⟨k, hk⟩ := List.mem_iff_getElem?.mp hg
  rw [getElem?_groups hn] at hk
  split at hk
  · next hlt =>
    obtain ⟨m, hm⟩ := Nat.dvd_of_mod_eq_zero hx
    have hkm : k < m := by
      rw [hm, Nat.mul_comm n] at hlt
      exact Nat.lt_of_mul_lt_mul_right hlt
    have hle : (k + 1) * n ≤ xs.length := by
      rw [hm, Nat.mul_comm n]
      exact Nat.mul_le_mul_right n hkm
    rw [← Option.some.inj hk, List.length_take, List.length_drop]
    rw [Nat.succ_mul] at hle
    omega
  · cases hk

theorem groups_of_length (hn : 0 < n) {xs : List α} (hx : xs.length = n) :
    groups n xs = [xs] := by
  have hne : xs ≠ [] := List.length_pos_iff.mp (hx ▸ hn)
  rw [groups_of_ne_nil hn hne, ← hx, List.take_length, List.drop_length, groups_nil]

/-- Joining whole groups and cutting again gives the groups back. -/
theorem groups_flatten (hn : 0 < n) (gs : List (List α)) (hg : ∀ group ∈ gs, group.length = n) :
    groups n gs.flatten = gs := by
  induction gs with
  | nil => exact groups_nil n
  | cons group gs ih =>
    have hlen := hg group List.mem_cons_self
    rw [List.flatten_cons, groups_append hn _ _ (by rw [hlen, Nat.mod_self]),
      groups_of_length hn hlen, ih fun g h => hg g (List.mem_cons_of_mem _ h),
      List.singleton_append]

theorem wholeGroups_of_whole {xs : List α} (hx : xs.length % n = 0) :
    wholeGroups n xs = groups n xs := by
  rw [wholeGroups, Nat.div_mul_cancel (Nat.dvd_of_mod_eq_zero hx), List.take_length]

theorem leftover_of_whole {xs : List α} (hx : xs.length % n = 0) : leftover n xs = [] := by
  rw [leftover, Nat.div_mul_cancel (Nat.dvd_of_mod_eq_zero hx), List.drop_length]

theorem length_take_whole (n : Nat) (xs : List α) :
    (xs.take (xs.length / n * n)).length = xs.length / n * n :=
  List.length_take_of_le (Nat.div_mul_le_self _ _)

theorem length_take_whole_mod (n : Nat) (xs : List α) :
    (xs.take (xs.length / n * n)).length % n = 0 := by
  rw [length_take_whole, Nat.mul_mod_left]

/-- There is a whole group for every `n` elements. -/
theorem length_wholeGroups (hn : 0 < n) (xs : List α) :
    (wholeGroups n xs).length = xs.length / n := by
  rw [wholeGroups, length_groups_of_whole hn (length_take_whole_mod n xs), length_take_whole,
    Nat.mul_div_cancel _ hn]

theorem length_of_mem_wholeGroups (hn : 0 < n) {xs group : List α}
    (hg : group ∈ wholeGroups n xs) : group.length = n :=
  length_of_mem_groups hn (length_take_whole_mod n xs) hg

/-- Behind whole groups, as many elements are taken up by whole groups as without them. -/
theorem length_append_div_mul (hn : 0 < n) {xs : List α} (hx : xs.length % n = 0)
    (ys : List α) : (xs ++ ys).length / n * n = xs.length + ys.length / n * n := by
  obtain ⟨k, hk⟩ := Nat.dvd_of_mod_eq_zero hx
  rw [List.length_append, hk, Nat.mul_add_div hn, Nat.add_mul, Nat.mul_comm k]

theorem wholeGroups_append (hn : 0 < n) {xs : List α} (hx : xs.length % n = 0) (ys : List α) :
    wholeGroups n (xs ++ ys) = wholeGroups n xs ++ wholeGroups n ys := by
  rw [wholeGroups_of_whole hx, wholeGroups, length_append_div_mul hn hx,
    List.take_length_add_append, groups_append hn _ _ hx, wholeGroups]

theorem leftover_append (hn : 0 < n) {xs : List α} (hx : xs.length % n = 0) (ys : List α) :
    leftover n (xs ++ ys) = leftover n ys := by
  rw [leftover, length_append_div_mul hn hx, List.drop_length_add_append, leftover]

theorem wholeGroups_of_length_lt {xs : List α} (h : xs.length < n) : wholeGroups n xs = [] := by
  rw [wholeGroups, Nat.div_eq_of_lt h, Nat.zero_mul, List.take_zero, groups_nil]

theorem leftover_of_length_lt {xs : List α} (h : xs.length < n) : leftover n xs = xs := by
  rw [leftover, Nat.div_eq_of_lt h, Nat.zero_mul, List.drop_zero]

/-! ### Work on groups -/

/-- Work on each group that keeps its length keeps the length of the list. -/
theorem length_flatten_mapIdx_groups (hn : 0 < n) (xs : List α) {work : Nat → List α → List β}
    (hlength : ∀ k group, (work k group).length = group.length) :
    ((groups n xs).mapIdx work).flatten.length = xs.length := by
  have hlengths : ((groups n xs).mapIdx work).map List.length = (groups n xs).map List.length := by
    refine List.ext_getElem? fun k => ?_
    rw [List.getElem?_map, List.getElem?_map, List.getElem?_mapIdx, Option.map_map]
    exact congrArg (Option.map · _) (funext fun group => hlength k group)
  rw [List.length_flatten, hlengths, ← List.length_flatten, flatten_groups hn.ne']

/-- A list of groups of one length, by position. -/
theorem getElem?_flatten_of_length (hn : 0 < n) {gs : List (List α)}
    (hg : ∀ group ∈ gs, group.length = n) (i : Nat) :
    gs.flatten[i]? = gs[i / n]?.bind (·[i % n]?) := by
  induction gs generalizing i with
  | nil => rfl
  | cons group gs ih =>
    have hlength : group.length = n := hg group List.mem_cons_self
    rw [List.flatten_cons]
    rcases Nat.lt_or_ge i n with hlt | hge
    · rw [List.getElem?_append_left (hlength ▸ hlt), Nat.div_eq_of_lt hlt, Nat.mod_eq_of_lt hlt]
      rfl
    · obtain ⟨m, rfl⟩ := Nat.exists_eq_add_of_le' hge
      rw [List.getElem?_append_right (hlength ▸ hge), hlength, Nat.add_sub_cancel,
        ih fun g h => hg g (List.mem_cons_of_mem _ h), Nat.add_div_right _ hn, Nat.add_mod_right]
      rfl

/-- Work on each group that keeps its length and a position keeps this position of the list. -/
theorem getElem?_flatten_mapIdx_groups (hn : 0 < n) {xs : List α} (hx : xs.length % n = 0)
    {work : Nat → List α → List α} (hlength : ∀ k group, (work k group).length = group.length)
    {i : Nat} (hwork : ∀ k group, (work k group)[i % n]? = group[i % n]?) :
    ((groups n xs).mapIdx work).flatten[i]? = xs[i]? := by
  have hgroups (group : List α) (h : group ∈ groups n xs) : group.length = n :=
    length_of_mem_groups hn hx h
  have hworked (group : List α) (h : group ∈ (groups n xs).mapIdx work) : group.length = n := by
    obtain ⟨k, hk, rfl⟩ := List.mem_mapIdx.mp h
    rw [hlength, hgroups _ (List.getElem_mem hk)]
  conv_rhs => rw [← flatten_groups hn.ne' xs]
  rw [getElem?_flatten_of_length hn hworked, getElem?_flatten_of_length hn hgroups,
    List.getElem?_mapIdx]
  cases (groups n xs)[i / n]? with
  | none => rfl
  | some group => exact hwork _ group

/-! ### Groups of groups -/

/-- Cutting into pieces of `q` groups each: group `k` of the list is group `k % q` of the piece
`k / q`. -/
theorem flatten_mapIdx_groups_mul {q : Nat} (hq : 0 < q) (hn : 0 < n)
    (f : Nat → Nat → List α → β) (xs : List α) :
    ((groups (q * n) xs).mapIdx fun j piece => (groups n piece).mapIdx (f j)).flatten =
      (groups n xs).mapIdx fun k => f (k / q) (k % q) := by
  induction hk : xs.length using Nat.strongRecOn generalizing xs f with
  | ind m ih =>
    have hqn : 0 < q * n := Nat.mul_pos hq hn
    rcases le_or_gt xs.length (q * n) with hle | hgt
    · -- the last piece: all of its groups have numbers below `q`
      rcases eq_or_ne xs [] with rfl | hne
      · simp
      · rw [groups_of_ne_nil hqn hne, List.take_of_length_le hle, List.drop_of_length_le hle,
          groups_nil, List.mapIdx_cons, List.mapIdx_nil, List.flatten_cons, List.flatten_nil,
          List.append_nil]
        refine List.ext_getElem? fun k => ?_
        rw [List.getElem?_mapIdx, List.getElem?_mapIdx, getElem?_groups hn]
        split
        · next hlt =>
          have hkq : k < q := Nat.lt_of_mul_lt_mul_right (hlt.trans_le hle)
          simp [Nat.div_eq_of_lt hkq, Nat.mod_eq_of_lt hkq]
        · rfl
    · have hne : xs ≠ [] := List.length_pos_iff.mp (hqn.trans hgt)
      have hlt : (xs.drop (q * n)).length < m := by
        rw [List.length_drop]
        omega
      have hlen : (xs.take (q * n)).length = q * n := List.length_take_of_le hgt.le
      have hmod : (xs.take (q * n)).length % n = 0 := by rw [hlen, Nat.mul_mod_left]
      have hgroups : groups n xs = groups n (xs.take (q * n)) ++ groups n (xs.drop (q * n)) := by
        rw [← groups_append hn _ _ hmod, List.take_append_drop]
      have hcount : (groups n (xs.take (q * n))).length = q := by
        rw [length_groups_of_whole hn hmod, hlen, Nat.mul_div_cancel q hn]
      rw [groups_of_ne_nil hqn hne, List.mapIdx_cons, List.flatten_cons,
        ih _ hlt (fun j => f (j + 1)) _ rfl, hgroups, List.mapIdx_append, hcount]
      congr 1
      · refine List.ext_getElem? fun k => ?_
        rw [List.getElem?_mapIdx, List.getElem?_mapIdx]
        rcases lt_or_ge k q with hkq | hkq
        · rw [Nat.div_eq_of_lt hkq, Nat.mod_eq_of_lt hkq]
        · rw [List.getElem?_eq_none (hcount.trans_le hkq)]
          rfl
      · simp only [Nat.add_div_right _ hq, Nat.add_mod_right]

end PixelMath
