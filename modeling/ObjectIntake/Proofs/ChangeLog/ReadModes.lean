import ObjectIntake.Proofs.Fetch.Selection
import ObjectIntake.Proofs.Written

/-!
The two ways in which a range of versions is read from a table. Where rows are only added, the change feed and
the snapshot hold the same rows, and a source finds the same in both.
-/
namespace ObjectIntake.Lakehouse
open Event

namespace Frame

/-- A condition that has a value on every change keeps those on which it is true. -/
theorem keep_of_test {f : Frame} {condition : Condition} {test : Change → Bool} {changes : List Change}
    (h : ∀ c ∈ changes, condition.eval (f.cells c) = .ok (some (test c))) :
    f.keep condition changes = .ok (changes.filter test) := by
  induction changes with
  | nil => rfl
  | cons c rest ih =>
    have hc : condition.eval (fun column => (f.cell? c column).getD .null) = .ok (some (test c)) :=
      h c (List.mem_cons_self ..)
    have hrest := ih fun d hd => h d (List.mem_cons_of_mem _ hd)
    rw [keep, hc, hrest]
    cases htest : test c with
    | true => simp [htest, bind, Except.bind, pure, Except.pure]
    | false => simp [htest, bind, Except.bind, pure, Except.pure]

theorem filter_of_test {f : Frame} {condition : Condition} (test : Change → Bool)
    (hthere : ∀ column ∈ condition.columns, f.hasColumn column = true)
    (h : ∀ c ∈ f.changes, condition.eval (f.cells c) = .ok (some (test c))) :
    f.filter condition = .ok { f with changes := f.changes.filter test } := by
  have hnone : (condition.columns.find? fun column => !f.hasColumn column) = none := by
    rw [List.find?_eq_none]
    intro column hcolumn
    simp [hthere column hcolumn]
  rw [filter, hnone, keep_of_test h]
  rfl

/-- Frames that show the same events keep the same changes under a condition on events. -/
theorem keep_congr {f g : Frame} (hf : f.ShowsRows) (hg : g.ShowsRows) {condition : Condition}
    (hreads : condition.Reads Predicate.eventColumns) (changes : List Change) :
    f.keep condition changes = g.keep condition changes := by
  induction changes with
  | nil => rfl
  | cons c rest ih =>
    have hcells : condition.eval (fun column => (f.cell? c column).getD .null) =
        condition.eval (fun column => (g.cell? c column).getD .null) := by
      apply hreads.eval_congr
      intro column hcolumn
      simp only [cell?_event hf c hcolumn, cell?_event hg c hcolumn]
    rw [keep, keep, hcells, ih]

theorem references_congr {f g : Frame} (hf : f.ShowsRows) (hg : g.ShowsRows)
    (hrows : f.changes = g.changes) : f.references = g.references := by
  have htexts (c : Change) : f.text? c Row.bucketColumn = g.text? c Row.bucketColumn ∧
      f.text? c Row.keyColumn = g.text? c Row.keyColumn := by
    constructor
    · rw [text?_event hf c (by decide) rfl, text?_event hg c (by decide) rfl]
    · rw [text?_event hf c (by decide) rfl, text?_event hg c (by decide) rfl]
  unfold references
  simp only [hrows, htexts]

/-- What is left of a frame under the condition of a predicate, as the references in it. -/
def found (f : Frame) (p : Predicate) : Except Failure (List Reference) :=
  (f.filter p.condition).map references

theorem find?_hasColumn {f : Frame} (hf : f.ShowsRows) (p : Predicate) :
    (p.condition.columns.find? fun column => !f.hasColumn column) = none := by
  rw [List.find?_eq_none]
  intro column hcolumn
  simp [hasColumn_event hf (Predicate.reads_condition p column hcolumn)]

/-- The references found depend on the rows of a frame and not on its other columns. -/
theorem found_congr {f g : Frame} (hf : f.ShowsRows) (hg : g.ShowsRows) (hrows : f.changes = g.changes)
    (p : Predicate) : f.found p = g.found p := by
  unfold found filter
  rw [find?_hasColumn hf, find?_hasColumn hg, hrows,
    keep_congr hf hg (Predicate.reads_condition p) g.changes]
  cases g.keep p.condition g.changes with
  | error e => rfl
  | ok kept => exact congrArg Except.ok (references_congr hf hg rfl)

end Frame

/-- The engine after more calls on it. -/
def Engine.noting (e : Engine) (calls : List Call) : Engine := { e with calls := e.calls ++ calls }

theorem Engine.noting_nil (e : Engine) : e.noting [] = e := by
  rw [noting, List.append_nil]

theorem Engine.noting_noting (e : Engine) (calls more : List Call) :
    (e.noting calls).noting more = e.noting (calls ++ more) := by
  rw [noting, noting, noting, List.append_assoc]

section Calls

variable (e : Engine) (calls : List Call)

theorem callAll_gives (more : List Call) :
    (callAll more).Gives (e.noting calls) (.ok ()) (e.noting (calls ++ more)) := by
  rw [← Engine.noting_noting]
  exact Work.Gives.change _

theorem filter_gives (f : Frame) (condition : Condition) :
    (filter f condition).Gives (e.noting calls) (f.filter condition)
      (e.noting (calls ++ [.filter condition.text])) := by
  rw [← Engine.noting_noting]
  exact (Work.Gives.change _).bind (Work.Gives.ofExcept _)

/-- The engine finds what the condition leaves, or fails as the condition does. -/
theorem references_found (p : Predicate) (f : Frame) :
    ∃ more, (references p f).Gives (e.noting calls) (f.found p) (e.noting more) := by
  have hfilter := filter_gives e calls f p.condition
  unfold references Frame.found
  cases hkept : f.filter p.condition with
  | error failure => exact ⟨_, (hkept ▸ hfilter).bind_error⟩
  | ok kept => exact ⟨_, (hkept ▸ hfilter).bind ((callAll_gives _ _ _).bind (Work.Gives.pure _))⟩

theorem loadTable_gives {path : String} {t : LakeTable} (h : e.tables.get? path = some t) :
    (loadTable path).Gives (e.noting calls) (.ok t) (e.noting (calls ++ [.loadTable path])) := by
  have htable : ((e.noting calls).noting [.loadTable path]).tables.get? path = some t := h
  rw [← Engine.noting_noting]
  unfold loadTable
  refine (Work.Gives.change _).bind (Work.Gives.world.bind ?_)
  dsimp only [Engine.noting] at htable ⊢
  rw [htable]
  exact Work.Gives.pure t

end Calls

/-- The same rows in another order, with the same columns. -/
structure Frame.Reorders (f g : Frame) : Prop where
  rows : f.changes.Perm g.changes
  commitColumn : f.commitColumn = g.commitColumn
  feed : f.feed = g.feed

/-- Two frames hold the same rows up to their order, and a source finds the same in both. -/
structure Frame.Agrees (f g : Frame) : Prop where
  rows : f.changes.Perm g.changes
  empty : ∀ scene other : Scene Engine, ((isEmpty f).runIn scene).1 = ((isEmpty g).runIn other).1
  counted : ∀ scene other : Scene Engine, ((count f).runIn scene).1 = ((count g).runIn other).1
  selected : ∀ channel commitColumn p (scene other : Scene Engine),
    ((Source.select channel (platform commitColumn) p f).runIn scene).1 =
      ((Source.select channel (platform commitColumn) p g).runIn other).1

/-- What a source selects depends only on the references that are found. -/
theorem select_congr {f g : Frame} {p : Predicate}
    (h : (f.found p).map Reference.ascending = (g.found p).map Reference.ascending)
    (channel commitColumn : String) (scene other : Scene Engine) :
    ((Source.select channel (platform commitColumn) p f).runIn scene).1 =
      ((Source.select channel (platform commitColumn) p g).runIn other).1 := by
  obtain ⟨_, hf⟩ := references_found scene.world [] p f
  obtain ⟨_, hg⟩ := references_found other.world [] p g
  rw [Engine.noting_nil] at hf hg
  have hleft := (Source.select_gives channel (platform commitColumn) hf).result_eq rfl
  have hright := (Source.select_gives channel (platform commitColumn) hg).result_eq rfl
  rw [hleft, hright, h]

theorem Frame.agrees_of_found {f g : Frame} (hrows : f.changes.Perm g.changes)
    (hfound : ∀ p, (f.found p).map Reference.ascending = (g.found p).map Reference.ascending) :
    f.Agrees g where
  rows := hrows
  empty _ _ := by
    have hempty : f.changes.isEmpty = g.changes.isEmpty := by
      rw [Bool.eq_iff_iff, List.isEmpty_iff, List.isEmpty_iff]
      exact ⟨fun h => (h ▸ hrows).symm.eq_nil, fun h => (h ▸ hrows).eq_nil⟩
    exact congrArg Except.ok hempty
  counted _ _ := congrArg Except.ok hrows.length_eq
  selected channel commitColumn p := select_congr (hfound p) channel commitColumn

/-- Frames of the same events agree, whatever other columns they have. -/
theorem Frame.agrees_of_eq {f g : Frame} (hf : f.ShowsRows) (hg : g.ShowsRows)
    (hrows : f.changes = g.changes) : f.Agrees g :=
  agrees_of_found (hrows ▸ List.Perm.refl _) fun p => by rw [found_congr hf hg hrows]

/-- Where the test of each row has an answer, the order of the rows does not matter either. -/
theorem Frame.agrees_of_perm {f g : Frame} (hf : f.ShowsRows) (hg : g.ShowsRows)
    (hsized : ∀ c ∈ g.changes, c.row.Sized) (hrows : f.changes.Perm g.changes) : f.Agrees g := by
  refine agrees_of_found hrows fun p => ?_
  have hsized' : ∀ c ∈ f.changes, c.row.Sized := fun c hc => hsized c (hrows.mem_iff.mp hc)
  obtain ⟨kept, hkept, hmem⟩ := filter_condition hf hsized' p
  obtain ⟨other, hother, hmem'⟩ := filter_condition hg hsized p
  have hf' : ({ f with changes := kept } : Frame).ShowsRows := hf
  have hg' : ({ g with changes := other } : Frame).ShowsRows := hg
  unfold found
  rw [hkept, hother]
  refine congrArg Except.ok (Reference.ascending_congr fun ref => ?_)
  rw [mem_references hf', mem_references hg']
  simp only [hmem, hmem', hrows.mem_iff]

/-- Rows are only added to the table, in versions from zero on. A column for the versions of the rows, if there
is one, stands beside those of the events. -/
structure LakeTable.AppendOnly (t : LakeTable) : Prop where
  inserts : ∀ c ∈ t.changes, c.kind = "insert"
  versions : ∀ c ∈ t.changes, 0 ≤ c.version
  columns : ∀ column ∈ Predicate.eventColumns, t.commitColumn ≠ some column

/-- The rows that the versions of a range wrote. -/
def LakeTable.written (t : LakeTable) (range : VersionRange) : List Change :=
  t.changes.filter fun c => range.holds c.version

namespace LakeTable.AppendOnly

variable {t : LakeTable} (ht : t.AppendOnly)
include ht

theorem isCurrent {c : Change} (hc : c ∈ t.changes) : currentKinds.contains c.kind = true := by
  rw [ht.inserts c hc]
  decide

/-- The feed from the version after the beginning, with nothing left out, holds the rows of the range. -/
theorem filter_feed (range : VersionRange) :
    (t.feed (range.lower + 1) range.upper).filter (.oneOf Frame.kindColumn currentKinds) =
      .ok ⟨t.written range, none, true⟩ := by
  have hkind (c : Change) : (t.feed (range.lower + 1) range.upper).cells c Frame.kindColumn =
      .text c.kind := by
    simp [Frame.cells, Frame.cell?, LakeTable.feed]
  rw [Frame.filter_of_test fun c => currentKinds.contains c.kind]
  · have hall : ∀ c ∈ t.changes.filter fun c => range.lower + 1 ≤ c.version && c.version ≤ range.upper,
        currentKinds.contains c.kind = true := fun c hc => ht.isCurrent (List.mem_of_mem_filter hc)
    have hbounds : (t.changes.filter fun c => range.lower + 1 ≤ c.version && c.version ≤ range.upper) =
        t.written range := by
      apply List.filter_congr
      intro c _
      simp only [VersionRange.holds, Int.add_one_le_iff]
    simp only [LakeTable.feed]
    rw [List.filter_eq_self.mpr hall, hbounds]
  · intro column hcolumn
    rw [List.mem_singleton.mp hcolumn, Frame.hasColumn]
    simp [Frame.cell?, LakeTable.feed]
  · intro c _
    rw [Condition.eval, hkind]
    rfl

theorem changes_snapshot (last : Int) :
    (t.snapshot last).changes = t.changes.filter fun c => c.version ≤ last := by
  apply List.filter_congr
  intro c hc
  rw [ht.isCurrent hc, Bool.and_true]

/-- From the origin on, all rows up to the end belong to the range. -/
theorem snapshot_of_origin {range : VersionRange} (h : range.lower = VersionRange.origin) :
    (t.snapshot range.upper).changes = t.written range := by
  rw [ht.changes_snapshot]
  apply List.filter_congr
  intro c hc
  have hversion := ht.versions c hc
  have hlower : range.lower < c.version := by
    rw [h, VersionRange.origin]
    omega
  simp [VersionRange.holds, hlower]

/-- With the versions in a column, the rows up to the beginning of the range can be left out. -/
theorem filter_snapshot {column : String} (hcolumn : t.commitColumn = some column) (range : VersionRange) :
    (t.snapshot range.upper).filter (.above column range.lower) =
      .ok ⟨t.written range, t.commitColumn, false⟩ := by
  have hversion (c : Change) : (t.snapshot range.upper).cell? c column = some (.whole c.version) := by
    simp [Frame.cell?, LakeTable.snapshot, hcolumn]
  rw [Frame.filter_of_test fun c => range.lower < c.version]
  · rw [ht.changes_snapshot, List.filter_filter]
    rfl
  · intro other hother
    rw [List.mem_singleton.mp hother, Frame.hasColumn, hversion, Option.isSome_some]
  · intro c _
    rw [Condition.eval, Frame.cells, hversion]
    rfl

end LakeTable.AppendOnly

/-- Without such a column they cannot. -/
theorem LakeTable.filter_snapshot_error {t : LakeTable} {column : String} {range : VersionRange}
    (hcolumn : (t.snapshot range.upper).hasColumn column = false) :
    (t.snapshot range.upper).filter (.above column range.lower) =
      .error (.engine ("cannot resolve " ++ column)) := by
  simp [Frame.filter, Condition.columns, hcolumn]

section Telling

variable {path : String} {range : VersionRange}

theorem feedText_eq (path : String) (range : VersionRange) :
    (do return "Reading change feed of " ++ path ++ " for versions " ++ (← range.written) : Except Failure String) =
      if range.Writable then
        .ok ("Reading change feed of " ++ path ++ " for versions " ++
          ("(" ++ Numeral.text range.lower ++ ", " ++ Numeral.text range.upper ++ "]"))
      else .error .integerTooLong := by
  rw [VersionRange.written_eq]
  split <;> rfl

theorem snapshotText_eq (path : String) (range : VersionRange) :
    (do return "Reading snapshot of " ++ path ++ " at version " ++ (← Numeral.written range.upper) ++
      " with commit > " ++ (← Numeral.written range.lower) : Except Failure String) =
      if range.Writable then
        .ok ("Reading snapshot of " ++ path ++ " at version " ++ Numeral.text range.upper ++ " with commit > " ++
          Numeral.text range.lower)
      else .error .integerTooLong := by
  have htwo := Numeral.written_two (fun upper lower => "Reading snapshot of " ++ path ++ " at version " ++ upper ++
    " with commit > " ++ lower) range.upper range.lower
  exact htwo.trans (if_congr and_comm rfl rfl)

/-- A range that cannot be written is not read. -/
theorem read_unwritable (h : ¬ range.Writable) (column : String) (mode : ReadMode) (path : String) (e : Engine) :
    (read column mode path range).Gives e (.error .integerTooLong) e := by
  cases mode with
  | incremental => exact (Work.Gives.tell_error ((feedText_eq path range).trans (if_neg h))).bind_error
  | snapshot => exact (Work.Gives.tell_error ((snapshotText_eq path range).trans (if_neg h))).bind_error

end Telling

section Reading

variable {path : String} {e : Engine} {t : LakeTable} (calls : List Call)

/-- The change feed is what its filter leaves of the versions after the beginning. -/
theorem readFeed_gives (h : e.tables.get? path = some t) {range : VersionRange} (hrange : range.Writable) :
    ∃ more, (readFeed path range).Gives (e.noting calls)
      ((t.feed (range.lower + 1) range.upper).filter (.oneOf Frame.kindColumn currentKinds))
      (e.noting more) :=
  ⟨_, (Work.Gives.tell_ok ((feedText_eq path range).trans (if_pos hrange))).bind ((callAll_gives e _ _).bind
    ((loadTable_gives e _ h).bind (filter_gives e _ _ _)))⟩

/-- The snapshot is what is left after the beginning of the range, and all of it from the origin on. -/
theorem readSnapshot_gives (h : e.tables.get? path = some t) (column : String) {range : VersionRange}
    (hrange : range.Writable) :
    ∃ more, (readSnapshot column path range).Gives (e.noting calls)
      (if range.lower = VersionRange.origin then .ok (t.snapshot range.upper)
      else ((t.snapshot range.upper).filter (.above column range.lower)).mapError fun failure =>
        .resolution (.snapshotUnfiltered path column failure.message)) (e.noting more) := by
  have htell (w : Engine) : (Work.tell tableChannel .info do
      return "Reading snapshot of " ++ path ++ " at version " ++ (← Numeral.written range.upper) ++
        " with commit > " ++ (← Numeral.written range.lower)).Gives w (.ok ()) w :=
    Work.Gives.tell_ok ((snapshotText_eq path range).trans (if_pos hrange))
  unfold readSnapshot
  by_cases horigin : range.lower = VersionRange.origin
  · simp only [if_pos horigin]
    exact ⟨_, (htell _).bind ((callAll_gives e _ _).bind
      ((loadTable_gives e _ h).bind (Work.Gives.pure _)))⟩
  · simp only [if_neg horigin]
    have hfilter (calls : List Call) :=
      filter_gives e calls (t.snapshot range.upper) (.above column range.lower)
    cases hkept : (t.snapshot range.upper).filter (.above column range.lower) with
    | ok kept =>
      rw [hkept] at hfilter
      exact ⟨_, (htell _).bind ((callAll_gives e _ _).bind
        ((loadTable_gives e _ h).bind (hfilter _).catch_ok))⟩
    | error failure =>
      rw [hkept] at hfilter
      exact ⟨_, (htell _).bind ((callAll_gives e _ _).bind
        ((loadTable_gives e _ h).bind ((hfilter _).catch_error (Work.Gives.throw _))))⟩

end Reading

/-- A table of three versions, one object in each, with a column for the versions. -/
def threeVersions : LakeTable where
  history := .ok [⟨2, "2024-01-03", "WRITE", none⟩, ⟨1, "2024-01-02", "WRITE", none⟩, ⟨0, "2024-01-01", "WRITE", none⟩]
  changes := [⟨0, ⟨some "b", some "x", .whole 1⟩, "insert"⟩, ⟨1, ⟨some "b", some "y", .whole 2⟩, "insert"⟩,
    ⟨2, ⟨some "b", some "z", .whole 3⟩, "insert"⟩]
  commitColumn := some "_commit_version"

def smallEngine : Engine := { tables := [("lake", threeVersions)] }

end ObjectIntake.Lakehouse
