import ObjectIntake.Version.Range

/-!
What a plan takes from the listed versions: its range starts at the checkpoint, ends at a listed version or
where it started, and leaves the versions after its end for the next plan.
-/
namespace ObjectIntake.Version

/-- The listed versions above a version, which are still to be read from there. -/
def above (listed : List Int) (lower : Int) : List Int := listed.filter (lower < ·)

theorem mem_above {listed : List Int} {lower v : Int} :
    v ∈ above listed lower ↔ v ∈ listed ∧ lower < v := by
  rw [above, List.mem_filter, decide_eq_true_eq]

theorem above_of_le {listed : List Int} {lower upper : Int} (h : lower ≤ upper) :
    above listed upper = above (above listed lower) upper := by
  rw [above, above, above, List.filter_filter]
  apply List.filter_congr
  intro v _
  rw [Bool.eq_iff_iff, Bool.and_eq_true, decide_eq_true_eq, decide_eq_true_eq]
  omega

theorem above_eq_nil {listed : List Int} {lower : Int} :
    above listed lower = [] ↔ ∀ v ∈ listed, v ≤ lower := by
  rw [above, List.filter_eq_nil_iff]
  constructor
  · intro h v hv
    have := h v hv
    rw [decide_eq_true_eq] at this
    omega
  · intro h v hv
    have := h v hv
    rw [decide_eq_true_eq]
    omega

theorem pairwise_ascending (versions : List Int) : (ascending versions).Pairwise (· ≤ ·) := by
  have h : (ascending versions).Pairwise fun a b => decide (a ≤ b) = true := by
    apply List.pairwise_mergeSort
    · intro a b c hab hbc
      rw [decide_eq_true_eq] at *
      omega
    · intro a b
      rw [Bool.or_eq_true, decide_eq_true_eq, decide_eq_true_eq]
      omega
  exact h.imp fun hab => of_decide_eq_true hab

theorem mem_ascending {versions : List Int} {v : Int} : v ∈ ascending versions ↔ v ∈ versions :=
  List.mem_mergeSort

/-- A list that ascends is left as it is. -/
theorem ascending_eq_self {versions : List Int} (h : versions.Pairwise (· ≤ ·)) :
    ascending versions = versions := by
  apply List.mergeSort_of_pairwise
  exact h.imp fun hab => decide_eq_true hab

theorem ascending_ascending (versions : List Int) :
    ascending (ascending versions) = ascending versions :=
  ascending_eq_self (pairwise_ascending versions)

theorem le_of_getLast?_ascending {versions : List Int} {newest : Int}
    (h : (ascending versions).getLast? = some newest) :
    newest ∈ versions ∧ ∀ v ∈ versions, v ≤ newest := by
  obtain ⟨before, hsplit⟩ := List.getLast?_eq_some_iff.mp h
  have hs := pairwise_ascending versions
  rw [hsplit, List.pairwise_append] at hs
  constructor
  · rw [← mem_ascending, hsplit]
    exact List.mem_append_right _ (List.mem_cons_self ..)
  · intro v hv
    rw [← mem_ascending, hsplit, List.mem_append, List.mem_singleton] at hv
    rcases hv with hv | rfl
    · exact hs.2.2 v hv newest (List.mem_cons_self ..)
    · exact Int.le_refl _

theorem firstItems_of_nonneg {α : Type} {count : Int} (h : 0 ≤ count) (l : List α) :
    firstItems count l = l.take count.toNat := by
  rw [firstItems, if_pos h]

theorem upperAfter_of_above_eq_nil {listed : List Int} {count lower : Int}
    (hcount : 1 ≤ count) (h : above listed lower = []) : upperAfter listed count lower = lower := by
  rw [upperAfter, firstItems_of_nonneg (by omega)]
  change (((above listed lower).take count.toNat).getLast?).getD lower = lower
  rw [h, List.take_nil]
  rfl

/-- Where versions are left, the end is the last of the versions that are taken. -/
theorem take_above_eq_append {listed : List Int} {count lower : Int}
    (hcount : 1 ≤ count) (h : above listed lower ≠ []) :
    ∃ before, (above listed lower).take count.toNat = before ++ [upperAfter listed count lower] := by
  have htaken : (above listed lower).take count.toNat ≠ [] := by
    rw [Ne, List.take_eq_nil_iff]
    rintro (hzero | hnil)
    · omega
    · exact h hnil
  have hlast := List.getLast?_eq_some_getLast htaken
  have hupper : upperAfter listed count lower = ((above listed lower).take count.toNat).getLast htaken := by
    rw [upperAfter, firstItems_of_nonneg (by omega)]
    change (((above listed lower).take count.toNat).getLast?).getD lower = _
    rw [hlast, Option.getD_some]
  exact ⟨_, by rw [hupper]; exact (List.dropLast_concat_getLast htaken).symm⟩

theorem upperAfter_mem_above {listed : List Int} {count lower : Int}
    (hcount : 1 ≤ count) (h : above listed lower ≠ []) :
    upperAfter listed count lower ∈ above listed lower := by
  obtain ⟨before, htake⟩ := take_above_eq_append hcount h
  apply List.mem_of_mem_take (i := count.toNat)
  rw [htake]
  exact List.mem_append_right _ (List.mem_cons_self ..)

theorem le_upperAfter {listed : List Int} {count lower : Int} (hcount : 1 ≤ count) :
    lower ≤ upperAfter listed count lower := by
  by_cases h : above listed lower = []
  · exact Int.le_of_eq (upperAfter_of_above_eq_nil hcount h).symm
  · exact Int.le_of_lt (mem_above.mp (upperAfter_mem_above hcount h)).2

theorem upperAfter_lt {listed : List Int} {count lower bound : Int} (hcount : 1 ≤ count)
    (hlower : lower < bound) (hlisted : ∀ v ∈ listed, v < bound) :
    upperAfter listed count lower < bound := by
  by_cases h : above listed lower = []
  · rw [upperAfter_of_above_eq_nil hcount h]
    exact hlower
  · exact hlisted _ (mem_above.mp (upperAfter_mem_above hcount h)).1

/-- In an ascending list, what is above one of the versions is what follows it. -/
theorem above_of_pairwise {before after : List Int} {v : Int}
    (h : (before ++ [v] ++ after).Pairwise (· < ·)) : above (before ++ [v] ++ after) v = after := by
  rw [List.pairwise_append, List.pairwise_append] at h
  obtain ⟨⟨-, -, hbefore⟩, -, hafter⟩ := h
  have hgone : above (before ++ [v]) v = [] := by
    rw [above_eq_nil]
    intro u hu
    rw [List.mem_append, List.mem_singleton] at hu
    rcases hu with hu | rfl
    · exact Int.le_of_lt (hbefore u hu v (List.mem_cons_self ..))
    · exact Int.le_of_eq rfl
  have hkept : above after v = after := by
    rw [above, List.filter_eq_self]
    intro u hu
    rw [decide_eq_true_eq]
    exact hafter v (List.mem_append_right _ (List.mem_cons_self ..)) u hu
  unfold above at hgone hkept ⊢
  rw [List.filter_append, hgone, hkept, List.nil_append]

/-- After a range has been read, its versions are gone from those to be read, and no others. -/
theorem above_upperAfter {listed : List Int} {count lower : Int}
    (hs : listed.Pairwise (· < ·)) (hcount : 1 ≤ count) :
    above listed (upperAfter listed count lower) = (above listed lower).drop count.toNat := by
  by_cases h : above listed lower = []
  · rw [upperAfter_of_above_eq_nil hcount h, h, List.drop_nil]
  obtain ⟨before, htake⟩ := take_above_eq_append hcount h
  have hsplit : above listed lower =
      before ++ [upperAfter listed count lower] ++ (above listed lower).drop count.toNat := by
    rw [← htake, List.take_append_drop]
  have hascends : (above listed lower).Pairwise (· < ·) := hs.filter _
  rw [hsplit] at hascends
  calc above listed (upperAfter listed count lower)
      = above (above listed lower) (upperAfter listed count lower) := above_of_le (le_upperAfter hcount)
    _ = above (before ++ [upperAfter listed count lower] ++ (above listed lower).drop count.toNat)
          (upperAfter listed count lower) := by rw [← hsplit]
    _ = (above listed lower).drop count.toNat := above_of_pairwise hascends

theorem planAfter_range (listed : List Int) (oldest count lower : Int) :
    (planAfter listed oldest count lower).range = ⟨lower, upperAfter listed count lower⟩ := by
  unfold planAfter
  split <;> rfl

/-- The versions that a plan is made from, and the two ways in which it starts. -/
theorem plan_ok {versions : List Int} {count : Int} {lower : Option Int} {strategy : Option Strategy}
    {p : Plan} (h : plan versions count lower strategy = .ok p) :
    versions ≠ [] ∧
      ((∃ l, lower = some l ∧ p.range = ⟨l, upperAfter (ascending versions) count l⟩) ∨
        ∃ newest s, lower = none ∧ strategy = some s ∧ newest ∈ versions ∧
          (∀ v ∈ versions, v ≤ newest) ∧ p = planAfresh newest s) := by
  dsimp only [plan] at h
  split at h
  next oldest newest holdest hnewest =>
    have hne : versions ≠ [] := by
      rintro rfl
      exact absurd hnewest (by simp [ascending])
    obtain ⟨hmem, hmax⟩ := le_of_getLast?_ascending hnewest
    split at h
    next l =>
      cases h
      exact ⟨hne, Or.inl ⟨l, rfl, planAfter_range ..⟩⟩
    next =>
      split at h
      next s =>
        cases h
        exact ⟨hne, Or.inr ⟨newest, s, rfl, rfl, hmem, hmax, rfl⟩⟩
      next => cases h
  next => cases h

theorem le_of_head?_ascending {oldest : Int} (h : (ascending versions).head? = some oldest) :
    oldest ∈ versions ∧ ∀ v ∈ versions, oldest ≤ v := by
  obtain ⟨rest, hsplit⟩ := List.head?_eq_some_iff.mp h
  have hs := pairwise_ascending versions
  rw [hsplit, List.pairwise_cons] at hs
  constructor
  · rw [← mem_ascending, hsplit]
    exact List.mem_cons_self ..
  · intro v hv
    rw [← mem_ascending, hsplit] at hv
    rcases List.mem_cons.mp hv with rfl | hv
    · exact Int.le_refl _
    · exact hs.1 v hv

/-- An oldest version that is told of lies within the range, since a version is planned for. -/
theorem truncatedAt_between {versions : List Int} {count oldest : Int} {lower : Option Int} {strategy : Option Strategy}
    {p : Plan} (h : plan versions count lower strategy = .ok p) (hcount : 1 ≤ count)
    (hgone : p.truncatedAt = some oldest) : p.range.lower ≤ oldest ∧ oldest ≤ p.range.upper := by
  dsimp only [plan] at h
  split at h
  next least newest hleast hnewest =>
    split at h
    next l =>
      cases h
      unfold planAfter at hgone ⊢
      split at hgone
      next hbelow =>
        cases hgone
        rw [if_pos hbelow]
        obtain ⟨hmem, hmin⟩ := le_of_head?_ascending hleast
        have habove : oldest ∈ above (ascending versions) l := mem_above.mpr ⟨mem_ascending.mpr hmem, by omega⟩
        have hupper := (mem_above.mp (upperAfter_mem_above hcount (List.ne_nil_of_mem habove))).1
        exact ⟨by dsimp only; omega, hmin _ (mem_ascending.mp hupper)⟩
      next => cases hgone
    next =>
      split at h
      next s =>
        cases h
        cases s <;> cases hgone
      next => cases h
  next => cases h

/-- With a starting point a plan is made wherever a version is listed. -/
theorem plan_some {versions : List Int} (h : versions ≠ []) (count lower : Int)
    (strategy : Option Strategy) :
    ∃ p, plan versions count (some lower) strategy = .ok p ∧
      p.range = ⟨lower, upperAfter (ascending versions) count lower⟩ := by
  have hne : ascending versions ≠ [] := by
    intro hnil
    obtain ⟨v, hv⟩ := List.exists_mem_of_ne_nil versions h
    rw [← mem_ascending, hnil] at hv
    exact absurd hv List.not_mem_nil
  refine ⟨planAfter (ascending versions) ((ascending versions).head hne) count lower, ?_,
    planAfter_range ..⟩
  dsimp only [plan]
  rw [List.head?_eq_some_head hne, List.getLast?_eq_some_getLast hne]

end ObjectIntake.Version
