import Mathlib.Data.List.Chain
import ObjectIntake.Proofs.Version.Planning

/-!
Ranges that follow one another without a gap. Each version between the first beginning and the last end lies
in exactly one of them.
-/
namespace ObjectIntake.VersionRange

theorem holds_iff {r : VersionRange} {v : Int} : r.holds v = true ↔ r.lower < v ∧ v ≤ r.upper := by
  rw [holds, Bool.and_eq_true, decide_eq_true_eq, decide_eq_true_eq]

theorem caughtUp_iff {r : VersionRange} : r.caughtUp = true ↔ r.lower = r.upper := decide_eq_true_iff

/-- Each range begins where the one before it ends, and none ends before it begins. -/
structure Tile (ranges : List VersionRange) : Prop where
  adjoin : ranges.IsChain fun a b => b.lower = a.upper
  forward : ∀ r ∈ ranges, r.lower ≤ r.upper

theorem tile_nil : Tile [] where
  adjoin := .nil
  forward := fun _ hr => absurd hr List.not_mem_nil

theorem tile_cons {r : VersionRange} {rest : List VersionRange} :
    Tile (r :: rest) ↔ r.lower ≤ r.upper ∧ (∀ s, rest.head? = some s → s.lower = r.upper) ∧ Tile rest := by
  constructor
  · intro h
    obtain ⟨hadjoin, hforward⟩ := h
    rw [List.isChain_cons] at hadjoin
    exact ⟨hforward r (List.mem_cons_self ..), fun s hs => hadjoin.1 s hs, hadjoin.2,
      fun s hs => hforward s (List.mem_cons_of_mem _ hs)⟩
  · rintro ⟨hle, hnext, hadjoin, hforward⟩
    refine ⟨List.isChain_cons.mpr ⟨fun s hs => hnext s hs, hadjoin⟩, fun s hs => ?_⟩
    rcases List.mem_cons.mp hs with rfl | hs
    · exact hle
    · exact hforward s hs

/-- A range that begins at the last end can be added. -/
theorem Tile.concat {ranges : List VersionRange} {r : VersionRange} (h : Tile ranges)
    (hle : r.lower ≤ r.upper) (hlast : ∀ s, ranges.getLast? = some s → r.lower = s.upper) :
    Tile (ranges ++ [r]) := by
  obtain ⟨hadjoin, hforward⟩ := h
  constructor
  · rw [List.isChain_append]
    refine ⟨hadjoin, .singleton _, fun s hs t ht => ?_⟩
    cases ht
    exact hlast s hs
  · intro s hs
    rw [List.mem_append, List.mem_singleton] at hs
    rcases hs with hs | rfl
    · exact hforward s hs
    · exact hle

theorem Tile.lower_eq {ranges : List VersionRange} (h : Tile ranges) {i : Nat} {r s : VersionRange}
    (hr : ranges[i]? = some r) (hs : ranges[i + 1]? = some s) : s.lower = r.upper := by
  obtain ⟨_, rfl⟩ := List.getElem?_eq_some_iff.mp hr
  obtain ⟨hlt, rfl⟩ := List.getElem?_eq_some_iff.mp hs
  exact List.isChain_iff_getElem.mp h.adjoin i hlt

/-- Later ranges begin where earlier ones have ended. -/
theorem Tile.pairwise {ranges : List VersionRange} (h : Tile ranges) :
    ranges.Pairwise fun a b => a.upper ≤ b.lower := by
  induction ranges with
  | nil => exact .nil
  | cons r rest ih =>
    obtain ⟨-, hnext, hrest⟩ := tile_cons.mp h
    have hpairs := ih hrest
    refine List.pairwise_cons.mpr ⟨fun s hs => ?_, hpairs⟩
    cases rest with
    | nil => exact absurd hs List.not_mem_nil
    | cons t tail =>
      have ht := hnext t rfl
      have hforward := (tile_cons.mp hrest).1
      rcases List.mem_cons.mp hs with rfl | hs
      · omega
      · have := (List.pairwise_cons.mp hpairs).1 s hs
        omega

/-- What the ranges hold together. -/
theorem Tile.exists_holds_iff {ranges : List VersionRange} (h : Tile ranges) {first last : VersionRange}
    (hfirst : ranges.head? = some first) (hlast : ranges.getLast? = some last) {v : Int} :
    (∃ r ∈ ranges, r.holds v = true) ↔ first.lower < v ∧ v ≤ last.upper := by
  induction ranges generalizing first with
  | nil => cases hfirst
  | cons r rest ih =>
    cases hfirst
    obtain ⟨hle, hnext, hrest⟩ := tile_cons.mp h
    cases rest with
    | nil =>
      rw [List.getLast?_singleton, Option.some.injEq] at hlast
      rw [← hlast]
      simp only [List.mem_singleton, exists_eq_left, holds_iff]
    | cons s tail =>
      have hs := hnext s rfl
      have hlast' : (s :: tail).getLast? = some last := by rw [← hlast, List.getLast?_cons_cons]
      have hmem : last ∈ s :: tail := List.mem_of_getLast? hlast'
      have hends := (List.pairwise_cons.mp h.pairwise).1 last hmem
      have hforward := hrest.forward last hmem
      rw [List.exists_mem_cons_iff, ih hrest rfl hlast', holds_iff, hs]
      omega

/-- A version is held by one range at most. -/
theorem Tile.eq_of_holds {ranges : List VersionRange} (h : Tile ranges) {i j : Nat} {r s : VersionRange}
    (hi : ranges[i]? = some r) (hj : ranges[j]? = some s) {v : Int} (hr : r.holds v = true)
    (hs : s.holds v = true) : i = j := by
  have hpairs := List.pairwise_iff_getElem.mp h.pairwise
  obtain ⟨hilt, rfl⟩ := List.getElem?_eq_some_iff.mp hi
  obtain ⟨hjlt, rfl⟩ := List.getElem?_eq_some_iff.mp hj
  rw [holds_iff] at hr hs
  rcases Nat.lt_trichotomy i j with hlt | heq | hgt
  · have := hpairs i j hilt hjlt hlt
    omega
  · exact heq
  · have := hpairs j i hjlt hilt hgt
    omega

end ObjectIntake.VersionRange
