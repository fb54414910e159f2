import ObjectIntake.Proofs.Checkpoint.Resolution
import ObjectIntake.Proofs.Version.Backlog

/-!
How far a plan reaches: its range takes the first versions after the checkpoint, as many as are asked for, and it
is a snapshot where versions between the checkpoint and the oldest one are gone. In which order the versions are
given does not matter.
-/
namespace ObjectIntake

namespace Version

variable {versions listed : List Int} {count lower : Int}

theorem ascending_perm (versions : List Int) : (ascending versions).Perm versions := List.mergeSort_perm _ _

theorem ascending_congr {others : List Int} (h : others.Perm versions) : ascending others = ascending versions := by
  have hperm : (ascending others).Perm (ascending versions) :=
    ((ascending_perm others).trans h).trans (ascending_perm versions).symm
  refine hperm.eq_of_pairwise (fun a b _ _ hab hba => ?_) (pairwise_ascending others) (pairwise_ascending versions)
  exact Int.le_antisymm hab hba

theorem plan_congr {others : List Int} (h : others.Perm versions) (count : Int) (lower : Option Int)
    (strategy : Option Strategy) : plan others count lower strategy = plan versions count lower strategy := by
  unfold plan
  rw [ascending_congr h]

/-- Versions that are all different ascend strictly. -/
theorem pairwise_lt_ascending (h : versions.Nodup) : (ascending versions).Pairwise (· < ·) := by
  have hdistinct : (ascending versions).Pairwise (· ≠ ·) := (ascending_perm versions).symm.nodup h
  refine ((pairwise_ascending versions).and hdistinct).imp ?_
  rintro a b ⟨hle, hne⟩
  omega

/-- Where versions are given, the oldest and the newest of them are what a plan goes by. -/
theorem plan_of_ne_nil (h : versions ≠ []) :
    ∃ oldest newest, oldest ∈ versions ∧ newest ∈ versions ∧ (∀ v ∈ versions, oldest ≤ v ∧ v ≤ newest) ∧
      (∀ count lower strategy, plan versions count (some lower) strategy =
        .ok (planAfter (ascending versions) oldest count lower)) ∧
      (∀ count, plan versions count none none = .error .noStrategy) ∧
      ∀ count strategy, plan versions count none (some strategy) = .ok (planAfresh newest strategy) := by
  have hne : ascending versions ≠ [] := by
    intro hnil
    have hperm := ascending_perm versions
    rw [hnil] at hperm
    exact h hperm.nil_eq.symm
  have holdest := List.head?_eq_some_head hne
  have hnewest := List.getLast?_eq_some_getLast hne
  obtain ⟨hfirst, hmin⟩ := le_of_head?_ascending holdest
  obtain ⟨hlast, hmax⟩ := le_of_getLast?_ascending hnewest
  refine ⟨_, _, hfirst, hlast, fun v hv => ⟨hmin v hv, hmax v hv⟩, ?_, ?_, ?_⟩
  · intro count lower strategy
    simp only [plan, holdest, hnewest]
  · intro count
    simp only [plan, holdest, hnewest]
  · intro count strategy
    simp only [plan, holdest, hnewest]

/-- The versions in the range are those that were taken from the versions above its beginning. -/
theorem filter_holds_upperAfter (hs : listed.Pairwise (· < ·)) (hcount : 1 ≤ count) :
    listed.filter (VersionRange.holds ⟨lower, upperAfter listed count lower⟩) =
      (above listed lower).take count.toNat := by
  have hholds : listed.filter (VersionRange.holds ⟨lower, upperAfter listed count lower⟩) =
      (above listed lower).filter (· ≤ upperAfter listed count lower) := by
    rw [above, List.filter_filter]
    apply List.filter_congr
    intro v _
    exact Bool.and_comm ..
  rw [hholds]
  by_cases hnone : above listed lower = []
  · rw [hnone, List.filter_nil, List.take_nil]
  obtain ⟨before, htake⟩ := take_above_eq_append hcount hnone
  have hsplit : above listed lower =
      (above listed lower).take count.toNat ++ above listed (upperAfter listed count lower) := by
    rw [above_upperAfter hs hcount, List.take_append_drop]
  have hascends : ((above listed lower).take count.toNat).Pairwise (· < ·) := (hs.filter _).take
  rw [htake] at hsplit hascends ⊢
  rw [hsplit, List.filter_append]
  have hkept : (before ++ [upperAfter listed count lower]).filter (· ≤ upperAfter listed count lower) =
      before ++ [upperAfter listed count lower] := by
    rw [List.filter_eq_self]
    intro v hv
    rw [decide_eq_true_eq]
    rcases List.mem_append.mp hv with hv | hv
    · exact Int.le_of_lt ((List.pairwise_append.mp hascends).2.2 v hv _ (List.mem_cons_self ..))
    · exact Int.le_of_eq (List.mem_singleton.mp hv)
  have hgone : (above listed (upperAfter listed count lower)).filter (· ≤ upperAfter listed count lower) = [] := by
    rw [List.filter_eq_nil_iff]
    intro v hv
    rw [decide_eq_true_eq]
    have := (mem_above.mp hv).2
    omega
  rw [hkept, hgone, List.append_nil]

end Version

/-- The range takes the first `count` of the versions above its beginning. -/
structure VersionRange.TakesFirst (r : VersionRange) (versions : List Int) (count : Int) : Prop where
  upper_eq_iff : r.upper = r.lower ↔ ∀ v ∈ versions, v ≤ r.lower
  upper_mem : r.upper ≠ r.lower → r.upper ∈ versions ∧ r.lower < r.upper
  length_eq : ((versions.filter r.holds).length : Int) = min count (versions.filter (r.lower < ·)).length
  smallest : ∀ v ∈ versions, ∀ w ∈ versions, r.holds v = true → r.lower < w → r.holds w = false → v < w

namespace Version

variable {versions : List Int} {count : Int}

theorem takesFirst_upperAfter (h : versions.Nodup) (hcount : 1 ≤ count) (lower : Int) :
    VersionRange.TakesFirst ⟨lower, upperAfter (ascending versions) count lower⟩ versions count := by
  have hperm := ascending_perm versions
  have hadvances : Advances (ascending versions) lower (upperAfter (ascending versions) count lower) :=
    advances_upperAfter hcount
  constructor
  case upper_eq_iff =>
    rw [eq_comm, hadvances.eq_iff, above_eq_nil]
    simp only [mem_ascending]
  case upper_mem =>
    intro hne
    rcases hadvances with ⟨-, heq⟩ | hmem
    · exact absurd heq hne
    · obtain ⟨hlisted, hlt⟩ := mem_above.mp hmem
      exact ⟨mem_ascending.mp hlisted, hlt⟩
  case length_eq =>
    have hfirst : (ascending versions).filter
        (VersionRange.holds ⟨lower, upperAfter (ascending versions) count lower⟩) =
        (above (ascending versions) lower).take count.toNat :=
      filter_holds_upperAfter (pairwise_lt_ascending h) hcount
    have hlength := congrArg List.length hfirst
    rw [(hperm.filter _).length_eq, List.length_take, above, (hperm.filter _).length_eq] at hlength
    rw [hlength]
    dsimp only
    omega
  case smallest =>
    intro v _ w _ hv hw hnot
    obtain ⟨-, hupper⟩ := VersionRange.holds_iff.mp hv
    have hbeyond : ¬ (lower < w ∧ w ≤ upperAfter (ascending versions) count lower) := by
      rw [← VersionRange.holds_iff (r := ⟨lower, upperAfter (ascending versions) count lower⟩), hnot]
      exact Bool.false_ne_true
    dsimp only at hupper hw
    omega

/-- A snapshot is read where versions after `lower` are gone. -/
theorem planAfter_mode (listed : List Int) (oldest count lower : Int) :
    (planAfter listed oldest count lower).mode = .snapshot ↔ lower < oldest - 1 := by
  unfold planAfter
  split
  next h => exact iff_of_true rfl h
  next h => exact iff_of_false ReadMode.noConfusion h

end Version

namespace Checkpoint

variable {W : Type} (w : W)

/-- A plan after a version can be warned of unless it has to be and one of the versions is too long. -/
theorem warnable_planAfter {listed : List Int} {oldest count lower : Int} :
    Warnable (Version.planAfter listed oldest count lower) ↔
      (lower < oldest - 1 → Numeral.Writable lower ∧ Numeral.Writable oldest) := by
  unfold Warnable Version.planAfter
  by_cases h : lower < oldest - 1
  · simp [h]
  · simp [h]

theorem planRange_congr {versions others : List Int} (h : others.Perm versions) (count : Int) (lower : Option Int)
    (strategy : Option Strategy) (basePath : Json) :
    (planRange others count lower strategy basePath : Work W Version.Plan) =
      planRange versions count lower strategy basePath := by
  unfold planRange
  rw [Version.plan_congr h]

end Checkpoint
end ObjectIntake
