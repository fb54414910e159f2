import ObjectIntake.Proofs.ChangeLog.ReadModes
import ObjectIntake.Proofs.Settings.Extensions

/-!
The endings of the keys that a source selects: those that its settings list, whichever platform holds the events.
Extensions that are given but list nothing lift the filter.
-/
namespace ObjectIntake.Source
open Settings Event Lakehouse

variable {p : Predicate} {channel : String} {refs : List Reference}

/-- In memory, the key of each reference selected has one of the endings of the predicate. -/
theorem ending_of_selected_row {rows : List Row} {scene : Scene Memory.Site}
    (h : ((select channel Memory.platform p rows).runIn scene).1 = .ok refs) :
    ∀ ref ∈ refs, p.extensions ≠ [] → ∃ e ∈ p.extensions, e.toList <:+ ref.key.toList := by
  have hselect := select_gives channel Memory.platform (Memory.references_gives p rows scene.world)
  rw [hselect.result_eq rfl] at h
  cases hfound : p.references rows with
  | error e =>
    rw [hfound] at h
    cases h
  | ok found =>
    rw [hfound] at h
    cases h
    intro ref href
    obtain ⟨r, -, haccepts, -, hkey⟩ := (Predicate.mem_references hfound).mp (Reference.mem_ascending.mp href)
    obtain ⟨key, hkey', hpasses⟩ := Predicate.passesKey_of_accepts haccepts
    obtain rfl : ref.key = key := Option.some.inj (hkey.symm.trans hkey')
    exact hpasses.ending

/-- So has the key of each reference that an engine selects. -/
theorem ending_of_selected_change {f : Frame} (hf : f.ShowsRows) {commitColumn : String} {scene : Scene Engine}
    (h : ((select channel (Lakehouse.platform commitColumn) p f).runIn scene).1 = .ok refs) :
    ∀ ref ∈ refs, p.extensions ≠ [] → ∃ e ∈ p.extensions, e.toList <:+ ref.key.toList := by
  obtain ⟨_, hreferences⟩ := references_found scene.world [] p f
  rw [Engine.noting_nil] at hreferences
  rw [(select_gives channel (Lakehouse.platform commitColumn) hreferences).result_eq rfl, Frame.found] at h
  cases hfilter : f.filter p.condition with
  | error e =>
    rw [hfilter] at h
    cases h
  | ok g =>
    rw [hfilter] at h
    cases h
    obtain ⟨kept, rfl, hkept⟩ := Frame.isTrue_of_filter hfilter
    have hshows : ({ f with changes := kept } : Frame).ShowsRows := hf
    intro ref href hne
    obtain ⟨c, hc, -, hkey⟩ := (Frame.mem_references hshows).mp (Reference.mem_ascending.mp href)
    obtain ⟨key, hkey', hending⟩ :=
      Predicate.ending_of_isTrue (hkept c hc).2 (Frame.shows_cells hf c).key hne
    obtain rfl : ref.key = key := Option.some.inj (hkey.symm.trans hkey')
    exact hending

/-- Events whose sizes are integers or null have the same references in memory and on an engine: those of the rows that
pass. -/
theorem select_of_sized (p : Predicate) {f : Frame} (hf : f.ShowsRows) (hsized : ∀ c ∈ f.changes, c.row.Sized) :
    ∃ refs, (∀ channel scene, ((select channel Memory.platform p (f.changes.map (·.row))).runIn scene).1 = .ok refs) ∧
      (∀ channel commitColumn scene,
        ((select channel (Lakehouse.platform commitColumn) p f).runIn scene).1 = .ok refs) ∧
      ∀ ref, ref ∈ refs ↔
        ∃ c ∈ f.changes, p.Passes c.row ∧ c.row.bucket = some ref.bucket ∧ c.row.key = some ref.key := by
  obtain ⟨kept, hfilter, hkept⟩ := Frame.filter_condition hf hsized p
  obtain ⟨found, hfound, hmem⟩ := p.references_of_sized (f.changes.map (·.row)) (List.forall_mem_map.mpr hsized)
  have hshows : ({ f with changes := kept } : Frame).ShowsRows := hf
  have hrows (ref : Reference) : ref ∈ found ↔
      ∃ c ∈ f.changes, p.Passes c.row ∧ c.row.bucket = some ref.bucket ∧ c.row.key = some ref.key := by
    rw [hmem]
    simp only [List.mem_map, exists_exists_and_eq_and]
  have hsame (ref : Reference) : ref ∈ ({ f with changes := kept } : Frame).references ↔ ref ∈ found := by
    rw [Frame.mem_references hshows, hrows]
    simp only [hkept, and_assoc]
  refine ⟨Reference.ascending found, fun channel scene => ?_, fun channel commitColumn scene => ?_, fun ref =>
    Reference.mem_ascending.trans (hrows ref)⟩
  · have hselect := select_gives channel Memory.platform
      (Memory.references_gives p (f.changes.map (·.row)) scene.world)
    rw [hselect.result_eq rfl, hfound]
    rfl
  · obtain ⟨_, hreferences⟩ := references_gives hfilter scene.world
    rw [(select_gives channel (Lakehouse.platform commitColumn) hreferences).result_eq rfl,
      ← Reference.ascending_congr hsame]
    rfl

section Built

variable {given : SourceField → Option Json} {around : Surroundings} {s : SourceSettings}

/-- With settings that were built, a key is selected for an ending that they list, on both platforms, and any key
where they list none. Only where the extensions are given as commas and blanks are keys selected whatever their
endings, although the format lists some. -/
theorem selects_listed_endings (hs : SourceSettings.build given around = .ok s) :
    let p := Predicate.ofSettings s
    (∀ rows channel scene refs, ((select channel Memory.platform p rows).runIn scene).1 = .ok refs →
      ∀ ref ∈ refs, s.HollowExtensions ∨ s.Admits ref.key) ∧
    (∀ f : Frame, f.ShowsRows → ∀ channel commitColumn scene refs,
      ((select channel (Lakehouse.platform commitColumn) p f).runIn scene).1 = .ok refs →
        ∀ ref ∈ refs, s.HollowExtensions ∨ s.Admits ref.key) ∧
    ∀ f : Frame, f.ShowsRows → (∀ c ∈ f.changes, c.row.Sized) →
      ∃ refs,
        (∀ channel scene, ((select channel Memory.platform p (f.changes.map (·.row))).runIn scene).1 = .ok refs) ∧
        (∀ channel commitColumn scene,
          ((select channel (Lakehouse.platform commitColumn) p f).runIn scene).1 = .ok refs) ∧
        ∀ ref, ref ∈ refs ↔ ∃ c ∈ f.changes, p.anyEnding.Passes c.row ∧
          c.row.bucket = some ref.bucket ∧ c.row.key = some ref.key ∧ (s.HollowExtensions ∨ s.Admits ref.key) := by
  intro p
  have hends (key : String) : (p.extensions ≠ [] → ∃ e ∈ p.extensions, e.toList <:+ key.toList) ↔
      s.HollowExtensions ∨ s.Admits key := SourceSettings.ends_iff (SourceSettings.extensions_not_blank hs)
  refine ⟨fun rows channel scene refs h ref href => ?_, fun f hf channel commitColumn scene refs h ref href => ?_,
    fun f hf hsized => ?_⟩
  · exact (hends ref.key).mp (ending_of_selected_row h ref href)
  · exact (hends ref.key).mp (ending_of_selected_change hf h ref href)
  · obtain ⟨refs, hmemory, hengine, hmem⟩ := select_of_sized p hf hsized
    refine ⟨refs, hmemory, hengine, fun ref => (hmem ref).trans ?_⟩
    refine exists_congr fun c => and_congr_right fun _ => ?_
    constructor
    · rintro ⟨hpasses, hbucket, hkey⟩
      obtain ⟨hothers, hending⟩ := (Predicate.passes_iff_anyEnding hkey).mp hpasses
      exact ⟨hothers, hbucket, hkey, (hends ref.key).mp hending⟩
    · rintro ⟨hothers, hbucket, hkey, hlisted⟩
      exact ⟨(Predicate.passes_iff_anyEnding hkey).mpr ⟨hothers, (hends ref.key).mpr hlisted⟩, hbucket, hkey⟩

end Built

/-- Only the extensions are given. -/
def givenExtensions (raw : String) (f : SourceField) : Option Json :=
  if f = .fileExtensions then some (.str raw) else none

/-- Of two objects the one is selected that ends as the extensions say, which have blanks and spare commas around. -/
theorem selects_listed_endings_csv :
    ∃ s, SourceSettings.build (givenExtensions " .csv,, ") .unset = .ok s ∧
      ¬ s.HollowExtensions ∧ s.Lists ".csv" ∧ s.Admits "a.csv" ∧
      ((select "" Memory.platform (Predicate.ofSettings s)
        [⟨some "b", some "a.csv", .whole 1⟩, ⟨some "b", some "a.parquet", .whole 1⟩]).runIn
          (Scene.start {})).1 = .ok [⟨"b", "a.csv"⟩] := by
  obtain ⟨s, hs, rfl⟩ : ∃ s, SourceSettings.build (givenExtensions " .csv,, ") .unset = .ok s ∧
      s = { fileExtensions := some " .csv,, " } := ⟨_, rfl, rfl⟩
  have hnames : Names " .csv,, " ".csv" := SourceSettings.mem_entries.mp (by decide +kernel)
  have hhollow : ¬ SourceSettings.HollowExtensions { fileExtensions := some " .csv,, " } := by
    rintro ⟨raw, hraw, hnothing⟩
    cases hraw
    exact absurd (hnothing 'c' (by decide)) (by decide)
  have hselected : ((select "" Memory.platform (Predicate.ofSettings { fileExtensions := some " .csv,, " })
      [⟨some "b", some "a.csv", .whole 1⟩, ⟨some "b", some "a.parquet", .whole 1⟩]).runIn
        (Scene.start {})).1 = .ok [⟨"b", "a.csv"⟩] := rfl
  obtain ⟨hmemory, -, -⟩ := selects_listed_endings hs
  have hadmits := hmemory _ _ _ _ hselected ⟨"b", "a.csv"⟩ (List.mem_singleton_self _)
  exact ⟨_, hs, hhollow, .inl ⟨_, rfl, hnames⟩, hadmits.resolve_left hhollow, hselected⟩

/-- With a comma for the extensions an object is selected that does not end as the format does. -/
theorem comma_lifts_endings :
    ∃ s, SourceSettings.build (givenExtensions ",") .unset = .ok s ∧
      s.Lists "parquet" ∧ ¬ s.Admits "a.csv" ∧
      ((select "" Memory.platform (Predicate.ofSettings s) [⟨some "b", some "a.csv", .whole 1⟩]).runIn
        (Scene.start {})).1 = .ok [⟨"b", "a.csv"⟩] := by
  obtain ⟨s, hs, rfl⟩ : ∃ s, SourceSettings.build (givenExtensions ",") .unset = .ok s ∧
      s = { fileExtensions := some "," } := ⟨_, rfl, rfl⟩
  have hnothing : NamesNothing "," := SourceSettings.entries_eq_nil_iff.mp (by decide +kernel)
  have hlists (entry : String) :
      SourceSettings.Lists { fileExtensions := some "," } entry ↔ entry ∈ SourceSettings.entries "parquet" := by
    rw [SourceSettings.Lists, SourceSettings.mem_entries]
    constructor
    · rintro (⟨raw, hraw, hnames⟩ | ⟨-, hnames⟩)
      · cases hraw
        have hmem := SourceSettings.mem_entries.mpr hnames
        rw [SourceSettings.entries_eq_nil_iff.mpr hnothing] at hmem
        exact absurd hmem List.not_mem_nil
      · exact hnames
    · exact fun hnames => .inr ⟨fun raw hraw => Option.some.inj hraw ▸ hnothing, hnames⟩
  refine ⟨_, hs, (hlists "parquet").mpr (by decide +kernel), fun hadmits => ?_, rfl⟩
  obtain ⟨entry, hentry, hends⟩ := hadmits ⟨"parquet", (hlists "parquet").mpr (by decide +kernel)⟩
  have hone : SourceSettings.entries "parquet" = ["parquet"] := by decide +kernel
  rw [hlists, hone, List.mem_singleton] at hentry
  subst hentry
  exact absurd hends (by decide)

end ObjectIntake.Source
