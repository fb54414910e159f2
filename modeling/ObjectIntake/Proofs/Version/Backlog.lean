import ObjectIntake.Proofs.Version.Tiling

/-!
Ranges that work off a list of versions. Each one ends at a version that was still to be read, and the last
ones are empty. Where they end does not depend on how the versions are shared among them.
-/
namespace ObjectIntake.Version
open VersionRange

/-- The end is one of the versions after `lower`, or `lower` itself where there are none. -/
def Advances (listed : List Int) (lower upper : Int) : Prop :=
  (above listed lower = [] ∧ upper = lower) ∨ upper ∈ above listed lower

/-- The ranges begin at `lower`, follow one another, and advance. -/
def WorksOff (listed : List Int) : Int → List VersionRange → Prop
  | _, [] => True
  | lower, r :: rest => r.lower = lower ∧ Advances listed lower r.upper ∧ WorksOff listed r.upper rest

theorem advances_upperAfter {listed : List Int} {count lower : Int} (hcount : 1 ≤ count) :
    Advances listed lower (upperAfter listed count lower) := by
  by_cases h : above listed lower = []
  · exact Or.inl ⟨h, upperAfter_of_above_eq_nil hcount h⟩
  · exact Or.inr (upperAfter_mem_above hcount h)

namespace Advances

variable {listed : List Int} {lower upper : Int}

theorem le (h : Advances listed lower upper) : lower ≤ upper := by
  rcases h with ⟨-, rfl⟩ | h
  · exact Int.le_refl _
  · exact Int.le_of_lt (mem_above.mp h).2

theorem eq_iff (h : Advances listed lower upper) : lower = upper ↔ above listed lower = [] := by
  rcases h with ⟨hnil, rfl⟩ | h
  · exact iff_of_true rfl hnil
  · have hlt := (mem_above.mp h).2
    constructor
    · intro heq
      omega
    · intro hnil
      rw [hnil] at h
      exact absurd h List.not_mem_nil

theorem mem_or_eq (h : Advances listed lower upper) : upper = lower ∨ upper ∈ listed := by
  rcases h with ⟨-, rfl⟩ | h
  · exact Or.inl rfl
  · exact Or.inr (mem_above.mp h).1

/-- A range that is not empty leaves fewer versions to be read. -/
theorem length_lt (h : Advances listed lower upper) (hleft : above listed lower ≠ []) :
    (above listed upper).length < (above listed lower).length := by
  rcases h with ⟨hnil, -⟩ | h
  · exact absurd hnil hleft
  have hlt := (mem_above.mp h).2
  rw [above_of_le (Int.le_of_lt hlt), above, List.length_filter_lt_length_iff_exists]
  exact ⟨upper, h, by rw [decide_eq_true_eq]; omega⟩

end Advances

namespace WorksOff

variable {listed : List Int} {ranges : List VersionRange} {lower : Int}

theorem tile (h : WorksOff listed lower ranges) : Tile ranges := by
  induction ranges generalizing lower with
  | nil => exact tile_nil
  | cons r rest ih =>
    obtain ⟨rfl, hadvances, hrest⟩ := h
    refine tile_cons.mpr ⟨hadvances.le, fun s hs => ?_, ih hrest⟩
    cases rest with
    | nil => cases hs
    | cons t tail =>
      cases hs
      exact hrest.1

/-- Together the ranges hold the versions from the beginning to the last end. -/
theorem exists_holds_iff (h : WorksOff listed lower ranges) {last : VersionRange}
    (hlast : ranges.getLast? = some last) {v : Int} :
    (∃ r ∈ ranges, r.holds v = true) ↔ lower < v ∧ v ≤ last.upper := by
  cases ranges with
  | nil => cases hlast
  | cons r rest =>
    rw [h.tile.exists_holds_iff rfl hlast, h.1]

theorem le_lower (h : WorksOff listed lower ranges) {r : VersionRange} (hr : r ∈ ranges) :
    lower ≤ r.lower := by
  induction ranges generalizing lower with
  | nil => exact absurd hr List.not_mem_nil
  | cons s rest ih =>
    obtain ⟨rfl, hadvances, hrest⟩ := h
    rcases List.mem_cons.mp hr with rfl | hr
    · exact Int.le_refl _
    · exact Int.le_trans hadvances.le (ih hrest hr)

theorem advances (h : WorksOff listed lower ranges) {r : VersionRange} (hr : r ∈ ranges) :
    Advances listed r.lower r.upper := by
  induction ranges generalizing lower with
  | nil => exact absurd hr List.not_mem_nil
  | cons s rest ih =>
    obtain ⟨rfl, hadvances, hrest⟩ := h
    rcases List.mem_cons.mp hr with rfl | hr
    · exact hadvances
    · exact ih hrest hr

theorem caughtUp_iff (h : WorksOff listed lower ranges) {r : VersionRange} (hr : r ∈ ranges) :
    r.caughtUp = true ↔ above listed r.lower = [] :=
  VersionRange.caughtUp_iff.trans (h.advances hr).eq_iff

theorem upper_mem_or_eq (h : WorksOff listed lower ranges) {r : VersionRange} (hr : r ∈ ranges) :
    r.upper = lower ∨ r.upper ∈ listed := by
  induction ranges generalizing lower with
  | nil => exact absurd hr List.not_mem_nil
  | cons s rest ih =>
    obtain ⟨rfl, hadvances, hrest⟩ := h
    rcases List.mem_cons.mp hr with rfl | hr
    · exact hadvances.mem_or_eq
    · rcases ih hrest hr with heq | hmem
      · rw [heq]
        exact hadvances.mem_or_eq
      · exact Or.inr hmem

/-- The versions left grow fewer with each range as long as there are any. -/
theorem length_add_le (h : WorksOff listed lower ranges) {i : Nat} {r : VersionRange}
    (hr : ranges[i]? = some r) (hleft : above listed r.lower ≠ []) :
    (above listed r.lower).length + i ≤ (above listed lower).length := by
  induction ranges generalizing lower i with
  | nil => cases hr
  | cons s rest ih =>
    obtain ⟨rfl, hadvances, hrest⟩ := h
    cases i with
    | zero =>
      cases hr
      exact Nat.le_refl _
    | succ i =>
      have hih := ih hrest hr
      have hpos := List.length_pos_iff.mpr hleft
      by_cases hnil : above listed s.lower = []
      · have heq := hadvances.eq_iff.mpr hnil
        rw [← heq, hnil, List.length_nil] at hih
        omega
      · have := hadvances.length_lt hnil
        omega

/-- After as many ranges as there were versions to read, all ranges are empty. -/
theorem caughtUp_of_length_le (h : WorksOff listed lower ranges) {i : Nat} {r : VersionRange}
    (hr : ranges[i]? = some r) (hi : (above listed lower).length ≤ i) : r.caughtUp = true := by
  rw [h.caughtUp_iff (List.mem_of_getElem? hr)]
  apply Classical.byContradiction
  intro hleft
  have hlength := h.length_add_le hr hleft
  have hpos := List.length_pos_iff.mpr hleft
  omega

/-- Where a range is empty, no version is left, and no other range of the same start ends later. -/
theorem upper_le_of_caughtUp (h : WorksOff listed lower ranges) {others : List VersionRange}
    (hothers : WorksOff listed lower others) {r s : VersionRange} (hr : r ∈ ranges)
    (hs : s ∈ others) (hcaught : s.caughtUp = true) : r.upper ≤ s.upper := by
  have hend := VersionRange.caughtUp_iff.mp hcaught
  have hnone := above_eq_nil.mp ((hothers.caughtUp_iff hs).mp hcaught)
  have hstart := hothers.le_lower hs
  rcases h.upper_mem_or_eq hr with heq | hmem
  · omega
  · have := hnone _ hmem
    omega

/-- The ranges after an empty one are the same as it. -/
theorem eq_of_caughtUp (h : WorksOff listed lower ranges) {i j : Nat} {r s : VersionRange}
    (hr : ranges[i]? = some r) (hs : ranges[j]? = some s) (hij : i ≤ j) (hcaught : r.caughtUp = true) :
    s = r := by
  have hrmem := List.mem_of_getElem? hr
  have hsmem := List.mem_of_getElem? hs
  have hend := VersionRange.caughtUp_iff.mp hcaught
  have hle := h.upper_le_of_caughtUp h hsmem hrmem hcaught
  have hforward := h.tile.forward s hsmem
  have hstart : r.upper ≤ s.lower := by
    rcases Nat.lt_or_eq_of_le hij with hlt | rfl
    · obtain ⟨hi, rfl⟩ := List.getElem?_eq_some_iff.mp hr
      obtain ⟨hj, rfl⟩ := List.getElem?_eq_some_iff.mp hs
      exact List.pairwise_iff_getElem.mp h.tile.pairwise i j hi hj hlt
    · rw [hr] at hs
      cases hs
      omega
  obtain ⟨rlower, rupper⟩ := r
  obtain ⟨slower, supper⟩ := s
  dsimp only at hend hle hforward hstart
  rw [VersionRange.mk.injEq]
  omega

/-- Ranges of `count` versions each take `count` versions more with every range. -/
theorem above_eq_drop (h : WorksOff listed lower ranges) (hs : listed.Pairwise (· < ·)) {count : Int}
    (hcount : 1 ≤ count) (hsteps : ∀ r ∈ ranges, r.upper = upperAfter listed count r.lower) {i : Nat}
    {r : VersionRange} (hr : ranges[i]? = some r) :
    above listed r.lower = (above listed lower).drop (i * count.toNat) := by
  induction ranges generalizing lower i with
  | nil => cases hr
  | cons s rest ih =>
    obtain ⟨rfl, -, hrest⟩ := h
    cases i with
    | zero =>
      cases hr
      rw [Nat.zero_mul, List.drop_zero]
    | succ i =>
      have hfirst := hsteps s (List.mem_cons_self ..)
      rw [ih hrest (fun t ht => hsteps t (List.mem_cons_of_mem _ ht)) hr, hfirst,
        above_upperAfter hs hcount, List.drop_drop, Nat.succ_mul, Nat.add_comm]

/-- With ranges of `count` versions each, the empty ones begin after as many ranges as are needed for all
versions. -/
theorem caughtUp_iff_div_le (h : WorksOff listed lower ranges) (hs : listed.Pairwise (· < ·)) {count : Int}
    (hcount : 1 ≤ count) (hsteps : ∀ r ∈ ranges, r.upper = upperAfter listed count r.lower) {i : Nat}
    {r : VersionRange} (hr : ranges[i]? = some r) :
    r.caughtUp = true ↔ ((above listed lower).length + count.toNat - 1) / count.toNat ≤ i := by
  rw [h.caughtUp_iff (List.mem_of_getElem? hr), h.above_eq_drop hs hcount hsteps hr,
    List.drop_eq_nil_iff]
  have hpos : 0 < count.toNat := by omega
  constructor
  · intro hle
    apply Nat.le_of_lt_succ
    rw [Nat.div_lt_iff_lt_mul hpos, Nat.succ_mul]
    omega
  · intro hle
    have hlt := Nat.lt_succ_of_le hle
    rw [Nat.div_lt_iff_lt_mul hpos, Nat.succ_mul] at hlt
    omega

end WorksOff
end ObjectIntake.Version
