import ObjectIntake.Proofs.Event.Condition

/-!
What a frame keeps under the condition of a predicate, and which objects the rows that it keeps refer to.
-/
namespace ObjectIntake.Lakehouse.Frame
open Event

/-- The version of a row, if the frame shows it, stands in a column of its own. -/
def ShowsRows (f : Frame) : Prop := ∀ column ∈ Predicate.eventColumns, f.commitColumn ≠ some column

/-- The cells that the frame shows for a change. -/
def cells (f : Frame) (c : Change) (column : String) : Cell := (f.cell? c column).getD .null

theorem cell?_event {f : Frame} (h : f.ShowsRows) (c : Change) {column : String}
    (hcolumn : column ∈ Predicate.eventColumns) : f.cell? c column = c.row.cell? column := by
  have hkind : column ≠ kindColumn := by
    rintro rfl
    exact absurd hcolumn (by decide)
  unfold cell?
  rw [if_neg (h column hcolumn), decide_eq_false hkind, Bool.and_false, if_neg Bool.false_ne_true]

theorem hasColumn_event {f : Frame} (h : f.ShowsRows) {column : String}
    (hcolumn : column ∈ Predicate.eventColumns) : f.hasColumn column = true := by
  rw [hasColumn, cell?_event h _ hcolumn]
  revert column
  decide

theorem text?_event {f : Frame} (h : f.ShowsRows) (c : Change) {column : String}
    (hcolumn : column ∈ Predicate.eventColumns) {o : Option String}
    (hcell : c.row.cell? column = some (.ofText o)) : f.text? c column = o := by
  rw [text?, cell?_event h c hcolumn, hcell]
  cases o with
  | none => rfl
  | some text => rfl

theorem shows_cells {f : Frame} (h : f.ShowsRows) (c : Change) : Shows (f.cells c) c.row where
  bucket := by rw [cells, cell?_event h c (by decide)]; rfl
  key := by rw [cells, cell?_event h c (by decide)]; rfl
  size := by rw [cells, cell?_event h c (by decide)]; rfl

/-- Only the changes on which the condition is true are kept. -/
theorem keep_of_evaluates (f : Frame) (condition : Condition) {changes : List Change}
    (h : ∀ c ∈ changes, condition.Evaluates (f.cells c)) :
    ∃ kept, f.keep condition changes = .ok kept ∧
      ∀ c, c ∈ kept ↔ c ∈ changes ∧ condition.IsTrue (f.cells c) := by
  induction changes with
  | nil => exact ⟨[], rfl, by simp only [List.not_mem_nil, false_and, implies_true]⟩
  | cons c rest ih =>
    obtain ⟨kept, hkept, hmem⟩ := ih fun d hd => h d (List.mem_cons_of_mem _ hd)
    obtain ⟨truth, htruth⟩ := h c (List.mem_cons_self ..)
    have hkeep : f.keep condition (c :: rest) = .ok (if truth = some true then c :: kept else kept) := by
      have heval : condition.eval (fun column => (f.cell? c column).getD .null) = .ok truth := htruth
      rw [keep, heval, hkept]
      rfl
    refine ⟨_, hkeep, fun d => ?_⟩
    split
    next ht =>
      subst ht
      rw [List.mem_cons, List.mem_cons, hmem, or_and_right]
      apply or_congr_left
      constructor
      · rintro rfl
        exact ⟨rfl, htruth⟩
      · exact And.left
    next ht =>
      rw [hmem, List.mem_cons, or_and_right, or_iff_right]
      rintro ⟨rfl, hd⟩
      rw [Condition.IsTrue, htruth, Except.ok.injEq] at hd
      exact ht hd

theorem isTrue_of_mem_keep {f : Frame} {condition : Condition} {changes kept : List Change}
    (h : f.keep condition changes = .ok kept) : ∀ c ∈ kept, c ∈ changes ∧ condition.IsTrue (f.cells c) := by
  induction changes generalizing kept with
  | nil =>
    cases h
    exact fun c hc => absurd hc List.not_mem_nil
  | cons c rest ih =>
    rw [keep, Work.bind_eq_ok] at h
    obtain ⟨truth, htruth, h⟩ := h
    obtain ⟨others, hothers, h⟩ := Work.bind_eq_ok.mp h
    cases h
    have hrest : ∀ d ∈ others, d ∈ c :: rest ∧ condition.IsTrue (f.cells d) := fun d hd =>
      ⟨List.mem_cons_of_mem _ (ih hothers d hd).1, (ih hothers d hd).2⟩
    split
    next ht =>
      subst ht
      exact List.forall_mem_cons.mpr ⟨⟨List.mem_cons_self .., htruth⟩, hrest⟩
    next => exact hrest

/-- What a filter leaves is some of the rows, on which the condition is true. -/
theorem isTrue_of_filter {f g : Frame} {condition : Condition} (h : f.filter condition = .ok g) :
    ∃ kept, g = { f with changes := kept } ∧ ∀ c ∈ kept, c ∈ f.changes ∧ condition.IsTrue (f.cells c) := by
  unfold filter at h
  split at h
  next => cases h
  next =>
    obtain ⟨kept, hkept, h⟩ := Work.bind_eq_ok.mp h
    cases h
    exact ⟨kept, rfl, isTrue_of_mem_keep hkept⟩

/-- The condition of a predicate keeps the rows that pass. -/
theorem filter_condition {f : Frame} (h : f.ShowsRows) (hsized : ∀ c ∈ f.changes, c.row.Sized)
    (p : Predicate) :
    ∃ kept, f.filter p.condition = .ok { f with changes := kept } ∧
      ∀ c, c ∈ kept ↔ c ∈ f.changes ∧ p.Passes c.row := by
  have hthere : (p.condition.columns.find? fun column => !f.hasColumn column) = none := by
    rw [List.find?_eq_none]
    intro column hcolumn
    have hevent := Predicate.reads_condition p column hcolumn
    rw [hasColumn_event h hevent]
    exact Bool.false_ne_true
  obtain ⟨kept, hkept, hmem⟩ := keep_of_evaluates f p.condition
    fun c hc => (p.condition_isTrue (shows_cells h c) (hsized c hc)).1
  refine ⟨kept, ?_, fun c => ?_⟩
  · unfold filter
    rw [hthere, hkept]
    rfl
  · rw [hmem]
    apply and_congr_right
    intro hc
    exact (p.condition_isTrue (shows_cells h c) (hsized c hc)).2

theorem mem_references {f : Frame} (h : f.ShowsRows) {ref : Reference} :
    ref ∈ f.references ↔
      ∃ c ∈ f.changes, c.row.bucket = some ref.bucket ∧ c.row.key = some ref.key := by
  rw [references, List.mem_eraseDups, List.mem_filterMap]
  apply exists_congr
  intro c
  apply and_congr_right
  intro _
  have hbucket : f.text? c Row.bucketColumn = c.row.bucket := text?_event h c (by decide) rfl
  have hkey : f.text? c Row.keyColumn = c.row.key := text?_event h c (by decide) rfl
  rw [hbucket, hkey]
  cases c.row.bucket with
  | none => simp only [reduceCtorEq, false_and]
  | some bucket =>
    cases c.row.key with
    | none => simp only [reduceCtorEq, and_false]
    | some key =>
      cases ref
      simp only [Option.some.injEq, Reference.mk.injEq]

end ObjectIntake.Lakehouse.Frame
