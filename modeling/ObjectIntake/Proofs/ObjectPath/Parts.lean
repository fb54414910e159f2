import ObjectIntake.Proofs.ObjectPath.Survey

/-!
How references are shared among workers: in contiguous parts of sizes that differ by at most one, the larger ones
first, as many as there are workers or references, whichever is less.
-/
namespace ObjectIntake.ObjectPath
open Event

theorem map_length_cut {α : Type} {sizes : List Nat} {l : List α} (h : sizes.sum = l.length) :
    (cut sizes l).map List.length = sizes := by
  induction sizes generalizing l with
  | nil => rfl
  | cons n sizes ih =>
    rw [List.sum_cons] at h
    have hrest : sizes.sum = (l.drop n).length := by
      rw [List.length_drop]
      omega
    rw [cut, List.map_cons, ih hrest, List.length_take, Nat.min_eq_left (by omega)]

theorem length_partSizes (total parts : Nat) : (partSizes total parts).length = parts := by
  rw [partSizes, List.length_map, List.length_range]

theorem bounds_of_mem_partSizes {total parts n : Nat} (h : n ∈ partSizes total parts) :
    total / parts ≤ n ∧ n ≤ total / parts + 1 := by
  obtain ⟨i, -, rfl⟩ := List.mem_map.mp h
  split <;> omega

/-- The items that are left over go to the first parts, one to each. -/
theorem pairwise_partSizes (total parts : Nat) : (partSizes total parts).Pairwise (· ≥ ·) := by
  rw [partSizes, List.pairwise_map]
  refine List.pairwise_lt_range.imp fun {i j} hij => Nat.add_le_add_left ?_ _
  by_cases hj : j < total % parts
  · exact Nat.le_of_eq (by rw [if_pos hj, if_pos (Nat.lt_trans hij hj)])
  · rw [if_neg hj]
    exact Nat.zero_le _

/-- The parts of a list have the sizes that its length is divided into, and there is a first item for each. -/
theorem map_length_parts {α : Type} (workers : Int) {l : List α} (h : l ≠ []) :
    ∃ n, 0 < n ∧ n ≤ l.length ∧ (n : Int) = min (max 1 workers) l.length ∧
      (parts workers l).map List.length = partSizes l.length n := by
  have hlength := List.length_pos_iff.mpr h
  have hpos : 0 < min (max 1 workers).toNat l.length := by omega
  exact ⟨_, hpos, Nat.min_le_right .., by omega, map_length_cut (sum_partSizes hpos)⟩

/-- No part is empty, and together they are the list, in order. -/
theorem parts_balanced {α : Type} (workers : Int) {l : List α} (h : l ≠ []) :
    ((parts workers l).length : Int) = min (max 1 workers) l.length ∧
      (∀ part ∈ parts workers l, part ≠ []) ∧
      (parts workers l).flatten = l ∧
      (parts workers l).Pairwise (fun earlier later => later.length ≤ earlier.length) ∧
      ∀ part ∈ parts workers l, ∀ other ∈ parts workers l, part.length ≤ other.length + 1 := by
  obtain ⟨n, hpos, hle, hn, hsizes⟩ := map_length_parts workers h
  have hbounds {part : List α} (hpart : part ∈ parts workers l) :
      l.length / n ≤ part.length ∧ part.length ≤ l.length / n + 1 :=
    bounds_of_mem_partSizes (hsizes ▸ List.mem_map_of_mem hpart)
  refine ⟨?_, fun part hpart => ?_, flatten_parts workers h, ?_, fun part hpart other hother => ?_⟩
  · rw [← hn, ← List.length_map (f := List.length), hsizes, length_partSizes]
  · have hshare := Nat.div_pos hle hpos
    exact List.ne_nil_of_length_pos (Nat.lt_of_lt_of_le hshare (hbounds hpart).1)
  · rw [← List.pairwise_map (f := List.length) (R := (· ≥ ·)), hsizes]
    exact pairwise_partSizes l.length n
  · exact Nat.le_trans (hbounds hpart).2 (Nat.add_le_add_right (hbounds hother).1 1)

/-- Of five objects the first of three workers takes two, and the second too. -/
theorem parts_balanced_five :
    let refs : List Reference :=
      [⟨"lake", "a"⟩, ⟨"lake", "b"⟩, ⟨"lake", "c"⟩, ⟨"lake", "d"⟩, ⟨"lake", "e"⟩]
    refs ≠ [] ∧ (parts 3 refs).length = 3 ∧ (parts 3 refs).map List.length = [2, 2, 1] ∧
      (∀ part ∈ parts 3 refs, part ≠ []) ∧ (parts 3 refs).flatten = refs := by
  intro refs
  have hrefs : refs ≠ [] := List.cons_ne_nil _ _
  obtain ⟨hlength, hfilled, hflatten, -, -⟩ := parts_balanced 3 hrefs
  exact ⟨hrefs, Int.ofNat.inj hlength, by decide, hfilled, hflatten⟩

end ObjectIntake.ObjectPath
