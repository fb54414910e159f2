import ObjectIntake.Proofs.Fetch.Metered

/-!
When a batch loads a file twice. References are told apart as they are spelled, and paths are decoded after
that, so a file is repeated where two spellings of its name were selected.
-/
namespace ObjectIntake
open Settings Event ObjectPath Checkpoint Memory Dataset

namespace Source

/-- Two of the references are different spellings of one path. -/
def Respelled (source : Source Site (List Row) Table) (presence : String → Presence)
    (refs : List Reference) : Prop :=
  ∃ a ∈ refs, ∃ b ∈ refs, a ≠ b ∧ ∃ path,
    source.surveyor.kept presence a = some path ∧ source.surveyor.kept presence b = some path

/-- The paths of different references repeat exactly where two of the references are spellings of one path. -/
theorem pathsOf_nodup_iff (source : Source Site (List Row) Table) (presence : String → Presence)
    {refs : List Reference} (h : refs.Nodup) :
    (source.pathsOf presence refs).Nodup ↔ ¬ source.Respelled presence refs := by
  unfold pathsOf
  constructor
  · rintro hnodup ⟨a, ha, b, hb, hne, path, hkept, hother⟩
    have hpairs := List.pairwise_filterMap.mp hnodup
    have hsymm : Std.Symm fun a b : Reference =>
        ∀ p, source.surveyor.kept presence a = some p →
          ∀ q, source.surveyor.kept presence b = some q → p ≠ q :=
      ⟨fun a b hab p hp q hq heq => hab q hq p hp heq.symm⟩
    exact hpairs.forall ha hb hne path hkept path hother rfl
  · intro hspelled
    apply List.pairwise_filterMap.mpr
    apply List.Pairwise.imp_of_mem _ h
    rintro a b ha hb hne p hp q hq rfl
    exact hspelled ⟨a, ha, b, hb, hne, p, hp, hq⟩

/-- The files that an exit loads. -/
theorem Exits.loads {source : Source Site (List Row) Table} {answers : Probe → String → Presence}
    {live : LiveSettings} {last : Json} {s : Standing Site}
    {exit : Except Failure (Batch Table) × Standing Site} (h : source.Exits answers live last s exit) :
    exit.2.world.loaded = s.world.loaded ∨
      ∃ resolved refs, resolution s.world.log.versions live last = .ok resolved ∧
        source.Selects s.world resolved refs ∧
        exit.2.world.loaded = s.world.loaded ++ [source.pathsOf (answers s.world.probe) refs] := by
  cases h with
  | unresolved h => exact .inl rfl
  | caughtUp h hrange => exact .inl (by rw [ended_world])
  | emptyRead h hrows => exact .inl (by simp [ended_world, Standing.onWorld, Site.noteRead])
  | unselected h hrefs => exact .inl rfl
  | noMatchingFiles h hrefs => exact .inl (by simp [ended_world, Standing.onWorld, Site.noteRead])
  | unrecorded h hrefs hrecord => exact .inl (by simp [surveyed, Standing.onWorld, Site.noteRead, Site.noteProbes])
  | noExistingFiles h hrefs hrecord hpaths =>
    exact .inl (by simp [ended_world, surveyed, Standing.onWorld, Site.noteRead, Site.noteProbes])
  | unloaded h hrefs hrecord hpaths hload =>
    exact .inl (by simp [surveyed, Standing.onWorld, Site.noteRead, Site.noteProbes])
  | @loaded resolved refs table h hrefs hrecord hpaths hload =>
    refine .inr ⟨resolved, refs, h.resolves, hrefs, ?_⟩
    simp [ended_world, surveyed, Standing.onWorld, Site.noteRead, Site.noteProbes, Site.noteLoad]

/-- A fetch of a source that was built hands at most one list of paths to the loader: those that are kept for the
references of rows in the range. The list holds a path more than once exactly where two different references
among them are spellings of one path. -/
theorem loads_repeat_iff_respelled {answers : Probe → String → Presence} {hasProbe metered : Bool}
    {built : LiveSettings} {channel : String} {source : Source Site (List Row) Table}
    (hbuild : build (probing answers) hasProbe built channel metered = .ok source) (live : LiveSettings)
    (last limit : Json) (scene : Scene Site) :
    let site := scene.world
    let after := ((source.fetch live last limit).runIn scene).2.world
    after.loaded = site.loaded ∨
      ∃ resolved paths refs, resolution site.log.versions live last = .ok resolved ∧
        after.loaded = site.loaded ++ [paths] ∧
        (∀ ref, ref ∈ refs ↔ ∃ r ∈ site.log.rows resolved.range, source.predicate.accepts r = .ok true ∧
          r.bucket = some ref.bucket ∧ r.key = some ref.key) ∧
        (∀ path, path ∈ paths ↔ source.Brings (answers site.probe) (site.log.rows resolved.range) path) ∧
        (paths.Nodup ↔ ¬ source.Respelled (answers site.probe) refs) := by
  have hsource : source.platform = probing answers := by rw [build_eq_ok hbuild]
  by_cases hwritable : (last.isWritable && limit.isWritable) = true
  swap
  · -- Nothing is done at all.
    refine .inl ?_
    rw [fetch_unwritten source live last limit (by simpa using hwritable) scene]
  obtain ⟨exit, hexit, htakes⟩ := fetch_takes live last hsource hwritable scene.standing
  have hworld := congrArg Standing.world (htakes.view_eq rfl)
  rw [reported_world] at hworld
  rcases hexit.loads with hnone | ⟨resolved, refs, hresolved, hselects, hloaded⟩
  · exact .inl ((congrArg Site.loaded hworld).trans hnone)
  · obtain ⟨found, hfound, hrefs⟩ := selects_iff.mp hselects
    refine .inr ⟨resolved, source.pathsOf (answers scene.world.probe) refs, refs, hresolved, ?_, ?_, ?_, ?_⟩
    · exact (congrArg Site.loaded hworld).trans hloaded
    · intro ref
      rw [hrefs, Reference.mem_ascending]
      exact Predicate.mem_references hfound
    · intro path
      rw [hrefs]
      exact mem_pathsOf (answers scene.world.probe) hfound
    · apply pathsOf_nodup_iff
      rw [hrefs]
      exact Reference.nodup_of_pairwise (Reference.pairwise_ascending found)

/-- Settings that read all versions and load what the events name. -/
def lakeSettings : LiveSettings := SourceSettings.live { basePath := some "lake", strategy := some .uptoLatest }

/-- One object with a space in its name, announced in both spellings of a space. -/
def twoSpellings : Site where
  log := Log.empty.commit [⟨some "b", some "a+b.parquet", .whole 1⟩, ⟨some "b", some "a%20b.parquet", .whole 1⟩]

theorem resolution_lakeSettings : resolution [0] lakeSettings .null = .ok ⟨.snapshot, ⟨-1, 0⟩, "0"⟩ :=
  have hconfigured : Configured lakeSettings := ⟨⟨"lake", rfl⟩, rfl⟩
  resolution_of_one_version hconfigured rfl (by decide) rfl rfl

theorem loaded_twoSpellings {source : Source Site (List Row) Table}
    (h : build (probing Probe.presence) false lakeSettings "source" false = .ok source) :
    ((source.fetch lakeSettings .null .null).runIn (Scene.start twoSpellings)).2.world.loaded =
      [["s3://b/a b.parquet", "s3://b/a b.parquet"]] := by
  have hmemory : source.InMemory Probe.presence := by
    rw [build_eq_ok h]
    exact ⟨rfl, rfl⟩
  have hversions : twoSpellings.log.versions = [0] := Version.ascending_eq_self (List.pairwise_singleton _ _)
  have hworld : ((source.fetch lakeSettings .null .null).runIn (Scene.start twoSpellings)).2.world = _ :=
    (hmemory.fetch_gives lakeSettings .null .null twoSpellings).world_eq rfl
  rw [hworld, fetched, hversions, resolution_lakeSettings, build_eq_ok h]
  decide +kernel

/-- Here a file is loaded twice in one batch. -/
theorem loads_a_file_twice :
    ∃ source, build (probing Probe.presence) false lakeSettings "source" false = .ok source ∧
      ∃ paths ∈ ((source.fetch lakeSettings .null .null).runIn (Scene.start twoSpellings)).2.world.loaded,
        ¬ paths.Nodup := by
  refine ⟨_, rfl, ["s3://b/a b.parquet", "s3://b/a b.parquet"], ?_, by decide⟩
  rw [loaded_twoSpellings rfl]
  exact List.mem_singleton_self _

/-- The two references that are selected here are spellings of one path. -/
theorem loads_repeat_iff_respelled_twoSpellings :
    ∃ source, build (probing Probe.presence) false lakeSettings "source" false = .ok source ∧
      ∃ refs, source.Respelled (Probe.presence twoSpellings.probe) refs := by
  obtain ⟨source, hbuild⟩ : ∃ source,
      build (probing Probe.presence) false lakeSettings "source" false = .ok source := ⟨_, rfl⟩
  have hloaded := loaded_twoSpellings hbuild
  refine ⟨source, hbuild, ?_⟩
  rcases loads_repeat_iff_respelled hbuild lakeSettings .null .null (Scene.start twoSpellings) with
    hnone | ⟨resolved, paths, refs, -, hone, -, -, hiff⟩
  · rw [hloaded] at hnone
    cases hnone
  · rw [hloaded] at hone
    have hpaths : ["s3://b/a b.parquet", "s3://b/a b.parquet"] = paths := (List.cons.inj hone).1
    have htwice : ¬ paths.Nodup := by
      rw [← hpaths]
      decide
    exact ⟨refs, not_not.mp (mt hiff.mpr htwice)⟩

end Source
end ObjectIntake
