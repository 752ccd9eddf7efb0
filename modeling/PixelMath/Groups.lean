/-!
# Consecutive groups

A list cut into consecutive groups of a fixed length.

## Main definitions

* `groups n xs` — the groups; the last one may be shorter.
* `wholeGroups n xs`, `leftover n xs` — the groups of exactly `n` and what they leave at the end.

## Main results

* `groups_eq` — the recursive equation of `groups`.
* `flatten_groups` — nothing is lost.
-/

namespace PixelMath

universe u

variable {α : Type u}

/-- Appends to `done` the groups of `n` elements. -/
def groupsOnto (n : Nat) (done : Array (List α)) (xs : List α) : Array (List α) :=
  if n = 0 ∨ xs = [] then done
  else groupsOnto n (done.push (xs.take n)) (xs.drop n)
termination_by xs.length
decreasing_by
  next h =>
    rw [not_or] at h
    have := List.length_pos_iff.mpr h.2
    rw [List.length_drop]
    omega

/-- Consecutive groups of `n` elements, the last one possibly shorter; none if `n` is zero. -/
def groups (n : Nat) (xs : List α) : List (List α) :=
  (groupsOnto n #[] xs).toList

/-- Consecutive groups of exactly `n` elements. -/
def wholeGroups (n : Nat) (xs : List α) : List (List α) :=
  groups n (xs.take (xs.length / n * n))

/-- The elements behind the last group of exactly `n`. -/
def leftover (n : Nat) (xs : List α) : List α :=
  xs.drop (xs.length / n * n)

theorem groupsOnto_cons {n : Nat} {xs : List α} (h : ¬(n = 0 ∨ xs = []))
    (done : Array (List α)) :
    groupsOnto n done xs = groupsOnto n (done.push (xs.take n)) (xs.drop n) := by
  rw [groupsOnto, if_neg h]

theorem toList_groupsOnto (n : Nat) (done : Array (List α)) (xs : List α) :
    (groupsOnto n done xs).toList = done.toList ++ groups n xs := by
  induction hk : xs.length using Nat.strongRecOn generalizing done xs with
  | ind k ih =>
    unfold groups
    by_cases h : n = 0 ∨ xs = []
    · simp [groupsOnto, h]
    · have hlt : (xs.drop n).length < k := by
        rw [not_or] at h
        have := List.length_pos_iff.mpr h.2
        rw [List.length_drop]
        omega
      rw [groupsOnto_cons h, groupsOnto_cons h, ih _ hlt _ _ rfl, ih _ hlt _ _ rfl]
      simp

/-- The first group and the groups of the rest. -/
theorem groups_eq (n : Nat) (xs : List α) :
    groups n xs = if n = 0 ∨ xs = [] then [] else xs.take n :: groups n (xs.drop n) := by
  rw [groups, groupsOnto]
  split
  · rfl
  · rw [toList_groupsOnto]
    simp

@[simp] theorem groups_nil (n : Nat) : groups n ([] : List α) = [] := by
  simp [groups_eq]

theorem flatten_groups {n : Nat} (hn : n ≠ 0) (xs : List α) : (groups n xs).flatten = xs := by
  induction hk : xs.length using Nat.strongRecOn generalizing xs with
  | ind k ih =>
    rw [groups_eq]
    split
    · next h => rw [h.resolve_left hn]; rfl
    · next h =>
      rw [not_or] at h
      have hpos := List.length_pos_iff.mpr h.2
      have hlt : (xs.drop n).length < k := by
        rw [List.length_drop]
        omega
      rw [List.flatten_cons, ih _ hlt _ rfl, List.take_append_drop]

end PixelMath
