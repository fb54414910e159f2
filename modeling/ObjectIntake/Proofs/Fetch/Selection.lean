import ObjectIntake.ChangeLog.Lakehouse
import ObjectIntake.Fetch
import ObjectIntake.Proofs.ChangeLog.Frame
import ObjectIntake.Proofs.ChangeLog.Memory
import ObjectIntake.Proofs.Event.Reference

/-!
The references that a source selects. An engine filters a frame with the condition of the predicate, and
memory filters rows with its test, and both select the same references.
-/
namespace ObjectIntake

namespace Source

/-- Whatever the platform finds, the distinct references of it are selected in ascending order. -/
theorem select_gives {W Rows Data : Type} {predicate : Event.Predicate} {rows : Rows} {w v : W}
    {found : Except Failure (List Event.Reference)} (channel : String) (platform : Platform W Rows Data)
    (h : (platform.references predicate rows).Gives w found v) :
    (select channel platform predicate rows).Gives w (found.map Event.Reference.ascending) v := by
  unfold select
  refine (Work.Gives.log _ _ _).bind ?_
  cases found with
  | error e => exact h.bind_error
  | ok found =>
    refine h.bind ?_
    exact (Work.Gives.log _ _ _).bind (Work.Gives.pure _)

end Source

namespace Lakehouse
open Event

/-- The engine finds the references of the frame that the condition leaves. -/
theorem references_gives {f kept : Frame} {p : Predicate} (h : f.filter p.condition = .ok kept)
    (e : Engine) : ∃ after, (references p f).Gives e (.ok kept.references) after := by
  have hkept : (filter f p.condition).Gives e (.ok kept)
      { e with calls := e.calls ++ [.filter p.condition.text] } := by
    unfold filter
    rw [h]
    exact (Work.Gives.change _).bind (Work.Gives.ofExcept _)
  exact ⟨_, hkept.bind ((Work.Gives.change _).bind (Work.Gives.pure _))⟩

/-- The condition that an engine evaluates on a row is true where the test of the row says yes, and both hold
of the rows that pass. So a frame that is filtered by the condition has the references of the rows in memory,
in whatever order they are collected, and a source selects the same ascending list on both platforms. -/
theorem selections_agree (p : Predicate) (f : Frame) (hshows : f.ShowsRows)
    (hsized : ∀ c ∈ f.changes, c.row.Sized) :
    (∀ c ∈ f.changes, ∃ truth b, p.condition.eval (f.cells c) = .ok truth ∧ p.accepts c.row = .ok b ∧
      (truth = some true ↔ b = true) ∧ (b = true ↔ p.Passes c.row)) ∧
    ∃ kept refs, f.filter p.condition = .ok { f with changes := kept } ∧
      (∀ c, c ∈ kept ↔ c ∈ f.changes ∧ p.Passes c.row) ∧
      refs.Pairwise Reference.Precedes ∧
      (∀ ref, ref ∈ refs ↔
        ∃ c ∈ f.changes, p.Passes c.row ∧ c.row.bucket = some ref.bucket ∧ c.row.key = some ref.key) ∧
      (∀ collected, collected.Perm ({ f with changes := kept } : Frame).references →
        Reference.ascending collected = refs) ∧
      (∀ channel commitColumn scene,
        ((Source.select channel (platform commitColumn) p f).runIn scene).1 = .ok refs) ∧
      ∀ channel scene,
        ((Source.select channel Memory.platform p (f.changes.map (·.row))).runIn scene).1 = .ok refs := by
  have hrow (c : Change) (hc : c ∈ f.changes) :
      ∃ truth b, p.condition.eval (f.cells c) = .ok truth ∧ p.accepts c.row = .ok b ∧
        (truth = some true ↔ b = true) ∧ (b = true ↔ p.Passes c.row) := by
    obtain ⟨⟨truth, htruth⟩, htrue⟩ := p.condition_isTrue (Frame.shows_cells hshows c) (hsized c hc)
    obtain ⟨b, hb, hpass⟩ := p.accepts_of_sized (hsized c hc)
    rw [Condition.IsTrue, htruth, Except.ok.injEq] at htrue
    exact ⟨truth, b, htruth, hb, htrue.trans hpass.symm, hpass⟩
  obtain ⟨kept, hfilter, hkept⟩ := Frame.filter_condition hshows hsized p
  obtain ⟨found, hfound, hmem⟩ := p.references_of_sized (f.changes.map (·.row)) (by
    intro r hr
    obtain ⟨c, hc, rfl⟩ := List.mem_map.mp hr
    exact hsized c hc)
  have hkeptShows : ({ f with changes := kept } : Frame).ShowsRows := hshows
  have hengine (ref : Reference) : ref ∈ ({ f with changes := kept } : Frame).references ↔
      ∃ c ∈ f.changes, p.Passes c.row ∧ c.row.bucket = some ref.bucket ∧ c.row.key = some ref.key := by
    rw [Frame.mem_references hkeptShows]
    simp only [hkept, and_assoc]
  have hmemory (ref : Reference) : ref ∈ found ↔
      ∃ c ∈ f.changes, p.Passes c.row ∧ c.row.bucket = some ref.bucket ∧ c.row.key = some ref.key := by
    rw [hmem]
    constructor
    · rintro ⟨r, hr, hrest⟩
      obtain ⟨c, hc, rfl⟩ := List.mem_map.mp hr
      exact ⟨c, hc, hrest⟩
    · rintro ⟨c, hc, hrest⟩
      exact ⟨c.row, List.mem_map_of_mem hc, hrest⟩
  have hsame (ref : Reference) : ref ∈ ({ f with changes := kept } : Frame).references ↔ ref ∈ found :=
    (hengine ref).trans (hmemory ref).symm
  refine ⟨hrow, kept, Reference.ascending found, hfilter, hkept, Reference.pairwise_ascending found,
    fun ref => Reference.mem_ascending.trans (hmemory ref), ?_, ?_, ?_⟩
  · intro collected hperm
    exact Reference.ascending_congr fun ref => hperm.mem_iff.trans (hsame ref)
  · intro channel commitColumn scene
    obtain ⟨after, hgives⟩ := references_gives hfilter scene.world
    have hselect := Source.select_gives channel (platform commitColumn) hgives
    rw [hselect.result_eq rfl, Except.map, Reference.ascending_congr hsame]
  · intro channel scene
    have hgives := Memory.references_gives p (f.changes.map (·.row)) scene.world
    rw [hfound] at hgives
    exact (Source.select_gives channel Memory.platform hgives).result_eq rfl

/-- A row that passes, one without a key, and one without a bucket and a size. -/
def mixedFrame : Frame where
  changes :=
    [⟨0, ⟨some "landing", some "in/a.parquet", .whole 3⟩, "insert"⟩,
      ⟨1, ⟨some "landing", none, .whole 2⟩, "insert"⟩,
      ⟨1, ⟨none, some "in/b.parquet", .null⟩, "insert"⟩]
  commitColumn := some "_metadata.row_commit_version"
  feed := false

theorem selections_agree_mixed :
    mixedFrame.ShowsRows ∧ (∀ c ∈ mixedFrame.changes, c.row.Sized) ∧
      ∃ refs, ⟨"landing", "in/a.parquet"⟩ ∈ refs ∧
        ((Source.select "" (platform "v") ⟨some "in/", none, some "tmp", [".parquet"]⟩ mixedFrame).runIn
          (Scene.start {})).1 = .ok refs ∧
        ((Source.select "" Memory.platform ⟨some "in/", none, some "tmp", [".parquet"]⟩
          (mixedFrame.changes.map (·.row))).runIn (Scene.start {})).1 = .ok refs := by
  have hshows : mixedFrame.ShowsRows := by
    unfold Frame.ShowsRows
    decide
  have hsized : ∀ c ∈ mixedFrame.changes, c.row.Sized := by
    simp only [mixedFrame, List.forall_mem_cons, List.not_mem_nil, false_implies, implies_true, and_true]
    exact ⟨Or.inr ⟨3, rfl⟩, Or.inr ⟨2, rfl⟩, Or.inl rfl⟩
  obtain ⟨hrow, kept, refs, -, -, -, hmem, -, hengine, hmemory⟩ :=
    selections_agree ⟨some "in/", none, some "tmp", [".parquet"]⟩ mixedFrame hshows hsized
  refine ⟨hshows, hsized, refs, ?_, hengine _ _ _, hmemory _ _⟩
  have hfirst : (⟨0, ⟨some "landing", some "in/a.parquet", .whole 3⟩, "insert"⟩ : Change) ∈
      mixedFrame.changes := List.mem_cons_self ..
  obtain ⟨truth, b, -, haccepts, -, hpass⟩ := hrow _ hfirst
  have hyes : b = true := Except.ok.inj (haccepts.symm.trans (by rfl))
  exact (hmem _).mpr ⟨_, hfirst, hpass.mp hyes, rfl, rfl⟩

end Lakehouse
end ObjectIntake
