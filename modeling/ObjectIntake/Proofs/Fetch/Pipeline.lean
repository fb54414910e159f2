import ObjectIntake.Proofs.Checkpoint.Resolution
import ObjectIntake.Proofs.Dataset.Assembly
import ObjectIntake.Proofs.Fetch.Selection
import ObjectIntake.Proofs.ObjectPath.Survey

/-!
A fetch in memory as a function of the site: what it hands out, and what it has read, probed and loaded when
it comes to an end.
-/
namespace ObjectIntake
open Settings Event ObjectPath Checkpoint Memory Dataset

theorem Memory.Site.noteProbes_nil (site : Site) : site.noteProbes [] = site := by
  rw [Site.noteProbes, List.append_nil]

namespace Source

/-- The source works in memory and does not count its fetches. -/
structure InMemory (source : Source Site (List Row) Table) (answers : Probe → String → Presence) :
    Prop where
  platform : source.platform = probing answers
  quiet : source.metered = false

/-- The paths that are kept for references. -/
def pathsOf (source : Source Site (List Row) Table) (presence : String → Presence)
    (refs : List Reference) : List String := refs.filterMap (source.surveyor.kept presence)

/-- What comes of the references that were selected, and the site after they were probed and loaded. -/
def intake (source : Source Site (List Row) Table) (answers : Probe → String → Presence)
    (live : LiveSettings) (token : String) (refs : List Reference) (site : Site) :
    Except Failure (Batch Table) × Site :=
  let paths := source.pathsOf (answers site.probe) refs
  let probed := site.noteProbes (refs.filterMap source.surveyor.asked)
  if paths = [] then (.ok ⟨none, token⟩, probed)
  else
    let table := assembled site live paths
    (table.map fun table => ⟨some table, token⟩, siteAfter probed paths table)

/-- What comes of a resolved range, and the site after it was read. -/
def outcome (source : Source Site (List Row) Table) (answers : Probe → String → Presence)
    (live : LiveSettings) (resolved : Resolved) (site : Site) : Except Failure (Batch Table) × Site :=
  if resolved.range.caughtUp then (.ok ⟨none, resolved.token⟩, site)
  else
    let read := site.noteRead resolved.mode resolved.range
    match source.predicate.references (site.log.rows resolved.range) with
    | .error e => (.error e, read)
    | .ok found => source.intake answers live resolved.token (Reference.ascending found) read

/-- What comes of a checkpoint, if it and the limit can be told of. -/
def fetched (source : Source Site (List Row) Table) (answers : Probe → String → Presence)
    (live : LiveSettings) (last limit : Json) (site : Site) : Except Failure (Batch Table) × Site :=
  if last.isWritable && limit.isWritable then
    match resolution site.log.versions live last with
    | .error e => (.error e, site)
    | .ok resolved => source.outcome answers live resolved site
  else (.error .integerTooLong, site)

variable {source : Source Site (List Row) Table} {answers : Probe → String → Presence}

theorem InMemory.meter_gives (h : source.InMemory answers)
    (f : Registry → Registry × Except Failure Unit) (site : Site) :
    (source.meter f).Gives site (.ok ()) site := by
  unfold meter
  rw [h.quiet]
  exact Work.Gives.pure ()

theorem InMemory.count_gives (h : source.InMemory answers) (outcome : Outcome) (site : Site) :
    (source.count outcome).Gives site (.ok ()) site := by
  unfold count
  exact Work.Gives.bind_elapsed fun _ => h.meter_gives _ site

theorem InMemory.finish_gives (h : source.InMemory answers) (live : LiveSettings) (outcome : Outcome)
    (resolved : Resolved) (data : Option Table) (site : Site) :
    (source.finish live outcome resolved data).Gives site (.ok ⟨data, resolved.token⟩) site := by
  unfold finish
  refine (h.count_gives outcome site).bind ?_
  refine (h.meter_gives _ site).bind ?_
  exact (Work.Gives.write _).bind (Work.Gives.pure _)

theorem survey_gives (surveyor : Surveyor) (refs : List Reference) (site : Site) :
    (survey (probing answers) surveyor refs).Gives site
      (.ok (surveyor.survey (answers site.probe) refs))
      (site.noteProbes (refs.filterMap surveyor.asked)) := by
  rw [← (surveyor.survey_paths (answers site.probe) refs).2]
  unfold survey
  refine Work.Gives.world.bind ?_
  refine (Work.Gives.change _).bind ?_
  exact (Work.Gives.writeAll _).bind (Work.Gives.pure _)

/-- The last stage of a fetch: the paths that were kept are loaded, unless there are none. -/
theorem InMemory.load_gives (h : source.InMemory answers) (live : LiveSettings) (resolved : Resolved)
    (paths : List String) (site : Site) :
    (do if paths.isEmpty then return ← source.finish live .noExistingFiles resolved none
        let table ← assemble source.platform source.channel live paths
        source.finish live .loaded resolved (some table) : Work Site (Batch Table)).Gives site
      (if paths = [] then .ok ⟨none, resolved.token⟩
        else (assembled site live paths).map fun table => ⟨some table, resolved.token⟩)
      (if paths = [] then site else siteAfter site paths (assembled site live paths)) := by
  rw [h.platform]
  by_cases hpaths : paths = []
  · rw [if_pos hpaths, if_pos hpaths, if_pos (List.isEmpty_iff.mpr hpaths)]
    exact h.finish_gives live .noExistingFiles resolved none site
  rw [if_neg hpaths, if_neg hpaths, if_neg (mt List.isEmpty_iff.mp hpaths)]
  have hload := assemble_gives answers source.channel live paths site
  cases htable : assembled site live paths with
  | error e =>
    rw [htable] at hload
    exact hload.bind_error
  | ok table =>
    rw [htable] at hload
    exact hload.bind (h.finish_gives live .loaded resolved (some table) _)

theorem intake_of_no_paths {live : LiveSettings} {token : String} {refs : List Reference} {site : Site}
    (h : source.pathsOf (answers site.probe) refs = []) :
    source.intake answers live token refs site =
      (.ok ⟨none, token⟩, site.noteProbes (refs.filterMap source.surveyor.asked)) := by
  unfold intake
  rw [h]
  exact if_pos rfl

theorem intake_of_paths {live : LiveSettings} {token : String} {refs : List Reference} {site : Site}
    (h : source.pathsOf (answers site.probe) refs ≠ []) :
    source.intake answers live token refs site =
      match assembled site live (source.pathsOf (answers site.probe) refs) with
      | .ok table =>
          (.ok ⟨some table, token⟩,
            (site.noteProbes (refs.filterMap source.surveyor.asked)).noteLoad
              (source.pathsOf (answers site.probe) refs))
      | .error e => (.error e, site.noteProbes (refs.filterMap source.surveyor.asked)) := by
  unfold intake
  dsimp only
  rw [if_neg h]
  cases assembled site live (source.pathsOf (answers site.probe) refs) with
  | ok table => rfl
  | error e => rfl

/-- Without references nothing is probed or loaded. -/
theorem intake_nil (live : LiveSettings) (token : String) (site : Site) :
    source.intake answers live token [] site = (.ok ⟨none, token⟩, site) := by
  rw [intake_of_no_paths rfl, List.filterMap_nil, Site.noteProbes_nil]

/-- The texts of a range that can be written. -/
theorem written_of_range {range : VersionRange} (h : range.Writable) (f : String → String)
    (g : String → String → String) :
    (do return f (← Numeral.written range.lower) : Except Failure String) = .ok (f (Numeral.text range.lower)) ∧
      (do return g (← Numeral.written range.lower) (← Numeral.written range.upper) : Except Failure String) =
        .ok (g (Numeral.text range.lower) (Numeral.text range.upper)) := by
  rw [Numeral.written_of_writable h.1, Numeral.written_of_writable h.2]
  exact ⟨rfl, rfl⟩

theorem InMemory.fetchRange_gives (h : source.InMemory answers) (live : LiveSettings)
    {resolved : Resolved} (hrange : resolved.range.Writable) (site : Site) :
    (source.fetchRange live resolved).Gives site (source.outcome answers live resolved site).1
      (source.outcome answers live resolved site).2 := by
  unfold fetchRange outcome
  dsimp only
  by_cases hcaught : resolved.range.caughtUp = true
  · have htext := (written_of_range hrange (fun lower => "Already caught up. Begin checkpoint was: " ++ lower)
      fun _ upper => upper).1
    rw [if_pos hcaught, if_pos hcaught]
    exact (Work.Gives.tell_ok htext).bind (h.finish_gives live .caughtUp resolved none site)
  rw [if_neg hcaught, if_neg hcaught, h.platform]
  let rows := site.log.rows resolved.range
  let read := site.noteRead resolved.mode resolved.range
  refine (read_gives resolved.mode (live.basePath.getD "") resolved.range site).bind ?_
  have hempty : ((probing answers).isEmpty rows).Gives read (.ok rows.isEmpty) read := Work.Gives.pure _
  refine hempty.bind ?_
  by_cases hrows : rows.isEmpty = true
  · have hnone : source.predicate.references rows = .ok [] := by
      rw [List.isEmpty_iff.mp hrows]
      rfl
    rw [if_pos hrows, hnone]
    dsimp only
    rw [Reference.ascending, List.foldr_nil, intake_nil]
    have htext := (written_of_range hrange id fun lower upper =>
      "No events committed in versions (" ++ lower ++ ", " ++ upper ++ ")").2
    exact (Work.Gives.tell_ok htext).bind (h.finish_gives live .emptyRead resolved none read)
  rw [if_neg hrows]
  have hselect := select_gives source.channel (probing answers)
    (references_gives source.predicate rows read)
  cases hfound : source.predicate.references rows with
  | error e =>
    rw [hfound] at hselect
    exact hselect.bind_error
  | ok found =>
    rw [hfound] at hselect
    refine hselect.bind ?_
    dsimp only
    generalize Reference.ascending found = refs
    by_cases hrefs : refs.isEmpty = true
    · rw [if_pos hrefs, List.isEmpty_iff.mp hrefs, intake_nil]
      exact h.finish_gives live .noMatchingFiles resolved none read
    rw [if_neg hrefs]
    refine (survey_gives source.surveyor refs read).bind ?_
    refine (h.meter_gives _ _).bind ?_
    refine (h.meter_gives _ _).bind ?_
    refine (Work.Gives.log _ _ _).bind ?_
    have hpaths : (source.surveyor.survey (answers read.probe) refs).paths =
        source.pathsOf (answers read.probe) refs := (source.surveyor.survey_paths _ refs).1
    rw [hpaths, intake, apply_ite Prod.fst, apply_ite Prod.snd, ← h.platform]
    exact h.load_gives live resolved _ (read.noteProbes (refs.filterMap source.surveyor.asked))

theorem InMemory.resolve_gives (h : source.InMemory answers) (live : LiveSettings) (last : Json)
    (site : Site) :
    (source.resolve live last).Gives site (resolution site.log.versions live last) site := by
  unfold resolve
  rw [h.platform]
  exact Checkpoint.resolve_gives answers source.channel live last site

/-- On any platform a fetch whose checkpoint or limit cannot be told of fails before anything is done. -/
theorem fetch_unwritten {W Rows Data : Type} (source : Source W Rows Data) (live : LiveSettings) (last limit : Json)
    (h : (last.isWritable && limit.isWritable) = false) (scene : Scene W) :
    (source.fetch live last limit).runIn scene = (.error .integerTooLong, scene) := by
  unfold fetch
  cases hlast : last.isWritable with
  | false =>
    rw [Json.writtenAs_of_not_isWritable hlast]
    rfl
  | true =>
    rw [hlast, Bool.true_and] at h
    rw [Json.writtenAs_of_isWritable hlast, Json.writtenAs_of_not_isWritable h]
    rfl

/-- A fetch hands out what comes of its checkpoint. A failure is reported and then raised as it is. -/
theorem InMemory.fetch_gives (h : source.InMemory answers) (live : LiveSettings) (last limit : Json)
    (site : Site) :
    (source.fetch live last limit).Gives site (source.fetched answers live last limit site).1
      (source.fetched answers live last limit site).2 := by
  by_cases hwritable : (last.isWritable && limit.isWritable) = true
  swap
  · rintro scene rfl
    rw [fetched, if_neg hwritable, fetch_unwritten source live last limit (by simpa using hwritable) scene]
    exact ⟨rfl, rfl⟩
  obtain ⟨hlast, hlimit⟩ := Bool.and_eq_true_iff.mp hwritable
  have hfetched : source.fetched answers live last limit site =
      match resolution site.log.versions live last with
      | .error e => (.error e, site)
      | .ok resolved => source.outcome answers live resolved site := if_pos hwritable
  have hreport (text : String) (failure : Failure) (after : Site) :
      (do if failure.isReported then source.reportFailure text failure
          throw failure : Work Site (Batch Table)).Gives after (.error failure) after := by
    dsimp only
    split
    next => exact ((h.count_gives _ _).bind (Work.Gives.write _)).bind (Work.Gives.throw _)
    next => exact Work.Gives.throw _
  have hstages : (do
      let resolved ← source.resolve live last
      source.fetchRange live resolved).Gives site (source.fetched answers live last limit site).1
        (source.fetched answers live last limit site).2 := by
    have hresolve := h.resolve_gives live last site
    rw [hfetched]
    cases hresolved : resolution site.log.versions live last with
    | error e =>
      rw [hresolved] at hresolve
      exact hresolve.bind_error
    | ok resolved =>
      rw [hresolved] at hresolve
      exact hresolve.bind (h.fetchRange_gives live (writable_of_resolution hresolved) site)
  unfold fetch
  rw [Json.writtenAs_of_isWritable hlast, Json.writtenAs_of_isWritable hlimit]
  refine (Work.Gives.ofExcept _).bind ((Work.Gives.ofExcept _).bind ((Work.Gives.log _ _ _).bind ?_))
  cases hresult : (source.fetched answers live last limit site).1 with
  | ok batch =>
    rw [hresult] at hstages
    exact hstages.catch_ok
  | error failure =>
    rw [hresult] at hstages
    exact hstages.catch_error (hreport _ failure _)

/-- A source that was built has the filters and the surveyor of the settings that it was built with. -/
theorem build_eq_ok {W Rows Data : Type} {platform : Platform W Rows Data} {hasProbe : Bool}
    {s : LiveSettings} {channel : String} {metered : Bool} {source : Source W Rows Data}
    (h : build platform hasProbe s channel metered = .ok source) :
    source = ⟨platform, Predicate.ofSettings s.toSourceSettings,
      ⟨Text.lowercase s.scheme, s.checkExistence, s.parallelism, channel⟩, channel, metered⟩ := by
  unfold build Surveyor.make at h
  obtain ⟨_, -, h⟩ := Work.bind_eq_ok.mp h
  obtain ⟨_, -, h⟩ := Work.bind_eq_ok.mp h
  obtain ⟨surveyor, hsurveyor, h⟩ := Work.bind_eq_ok.mp h
  obtain ⟨_, -, h⟩ := Work.bind_eq_ok.mp h
  split at hsurveyor
  · cases hsurveyor
  · rw [← Except.ok.inj hsurveyor] at h
    exact (Except.ok.inj h).symm

/-- A path that rows bring: that of the object of a row on which the test says yes, if it is there or need not be. -/
def Brings (source : Source Site (List Row) Table) (presence : String → Presence) (rows : List Row)
    (path : String) : Prop :=
  ∃ r ∈ rows, source.predicate.accepts r = .ok true ∧
    ∃ ref : Reference, r.bucket = some ref.bucket ∧ r.key = some ref.key ∧
      Locates source.surveyor.scheme ref path ∧ (source.surveyor.checks = true → presence path = .present)

theorem mem_pathsOf (presence : String → Presence) {rows : List Row} {found : List Reference}
    (h : source.predicate.references rows = .ok found) {path : String} :
    path ∈ source.pathsOf presence (Reference.ascending found) ↔ source.Brings presence rows path := by
  rw [pathsOf, List.mem_filterMap]
  constructor
  · rintro ⟨ref, href, hkept⟩
    obtain ⟨r, hr, hyes, hbucket, hkey⟩ := (Predicate.mem_references h).mp (Reference.mem_ascending.mp href)
    exact ⟨r, hr, hyes, ref, hbucket, hkey, (source.surveyor.kept_eq_some_iff presence).mp hkept⟩
  · rintro ⟨r, hr, hyes, ref, hbucket, hkey, hlocated⟩
    have href := (Predicate.mem_references h).mpr ⟨r, hr, hyes, hbucket, hkey⟩
    exact ⟨ref, Reference.mem_ascending.mpr href, (source.surveyor.kept_eq_some_iff presence).mpr hlocated⟩

/-- Whatever comes of a range, the log, the probe and the files stay, and a range that is not empty is read
once. A success carries the resolved token, and has loaded the paths that the rows of the range bring. -/
theorem outcome_spec (source : Source Site (List Row) Table) (answers : Probe → String → Presence)
    (live : LiveSettings) (resolved : Resolved) (site : Site) :
    ∃ asked loads, (source.outcome answers live resolved site).2 =
        { site with
          reads := site.reads ++
            if resolved.range.caughtUp then [] else [(resolved.mode, resolved.range)]
          probed := site.probed ++ asked
          loaded := site.loaded ++ loads } ∧
      ∀ batch, (source.outcome answers live resolved site).1 = .ok batch →
        batch.token = resolved.token ∧
          ∀ path, path ∈ loads.flatten ↔
            source.Brings (answers site.probe) (site.log.rows resolved.range) path := by
  unfold outcome
  by_cases hcaught : resolved.range.caughtUp = true
  · rw [if_pos hcaught, if_pos hcaught]
    refine ⟨[], [], by rw [List.append_nil, List.append_nil, List.append_nil], fun batch hbatch => ?_⟩
    cases hbatch
    refine ⟨rfl, fun path => ?_⟩
    simp only [List.flatten_nil, List.not_mem_nil, Brings, Log.rows_of_caughtUp hcaught, false_and,
      exists_false]
  rw [if_neg hcaught, if_neg hcaught]
  dsimp only
  cases hfound : source.predicate.references (site.log.rows resolved.range) with
  | error e =>
    refine ⟨[], [], by rw [List.append_nil, List.append_nil]; rfl, fun batch hbatch => ?_⟩
    cases hbatch
  | ok found =>
    dsimp only
    let refs := Reference.ascending found
    let read := site.noteRead resolved.mode resolved.range
    let asked := refs.filterMap source.surveyor.asked
    by_cases hpaths : source.pathsOf (answers read.probe) refs = []
    · have hintake : source.intake answers live resolved.token refs read = _ := intake_of_no_paths hpaths
      rw [hintake]
      refine ⟨asked, [], by rw [List.append_nil]; rfl, fun batch hbatch => ?_⟩
      cases hbatch
      refine ⟨rfl, fun path => ?_⟩
      rw [← mem_pathsOf (answers site.probe) hfound, List.flatten_nil]
      exact iff_of_eq (congrArg (path ∈ ·) hpaths.symm)
    · have hintake : source.intake answers live resolved.token refs read = _ := intake_of_paths hpaths
      rw [hintake]
      cases assembled read live (source.pathsOf (answers read.probe) refs) with
      | error e =>
        refine ⟨asked, [], by rw [List.append_nil]; rfl, fun batch hbatch => ?_⟩
        cases hbatch
      | ok table =>
        refine ⟨asked, [source.pathsOf (answers read.probe) refs], rfl, fun batch hbatch => ?_⟩
        cases hbatch
        refine ⟨rfl, fun path => ?_⟩
        rw [← mem_pathsOf (answers site.probe) hfound, List.flatten_singleton]
        exact Iff.rfl

/-- The references and paths of a range whose rows have sizes that are integers or null. -/
theorem outcome_of_sized (source : Source Site (List Row) Table) (answers : Probe → String → Presence)
    (live : LiveSettings) (resolved : Resolved) (site : Site)
    (hrange : resolved.range.lower ≠ resolved.range.upper)
    (hsized : ∀ r ∈ site.log.rows resolved.range, r.Sized) :
    ∃ (refs : List Reference) (paths : List String),
      refs.Pairwise Reference.Precedes ∧
      (∀ ref, ref ∈ refs ↔ ∃ r ∈ site.log.rows resolved.range,
        source.predicate.Passes r ∧ r.bucket = some ref.bucket ∧ r.key = some ref.key) ∧
      paths = refs.filterMap (source.surveyor.kept (answers site.probe)) ∧
      let read := { site with
        reads := site.reads ++ [(resolved.mode, resolved.range)]
        probed := site.probed ++ refs.filterMap source.surveyor.asked }
      (paths = [] → source.outcome answers live resolved site = (.ok ⟨none, resolved.token⟩, read)) ∧
      (paths ≠ [] → source.outcome answers live resolved site =
        match assembled site live paths with
        | .ok table => (.ok ⟨some table, resolved.token⟩, { read with loaded := site.loaded ++ [paths] })
        | .error e => (.error e, read)) := by
  obtain ⟨found, hfound, hmem⟩ := source.predicate.references_of_sized _ hsized
  have houtcome : source.outcome answers live resolved site =
      source.intake answers live resolved.token (Reference.ascending found)
        (site.noteRead resolved.mode resolved.range) := by
    rw [outcome, VersionRange.caughtUp, if_neg (by rw [decide_eq_true_eq]; exact hrange)]
    dsimp only
    rw [hfound]
  refine ⟨Reference.ascending found, _, Reference.pairwise_ascending found,
    fun ref => Reference.mem_ascending.trans (hmem ref), rfl, ?_, ?_⟩
  · intro hnone
    exact houtcome.trans (intake_of_no_paths hnone)
  · intro hsome
    exact houtcome.trans (intake_of_paths hsome)

/-- So a batch comes of such a range wherever the table is assembled. -/
theorem outcome_eq_ok (source : Source Site (List Row) Table) (answers : Probe → String → Presence)
    {live : LiveSettings} (mode : ReadMode) {range : VersionRange} (token : String) {site : Site}
    (hsized : ∀ r ∈ site.log.rows range, r.Sized)
    (hassembles : ∀ paths, ∃ table, assembled site live paths = .ok table) :
    ∃ batch, (source.outcome answers live ⟨mode, range, token⟩ site).1 = .ok batch := by
  by_cases hcaught : range.caughtUp = true
  · refine ⟨⟨none, token⟩, ?_⟩
    rw [outcome, if_pos hcaught]
  · obtain ⟨refs, paths, -, -, -, hnone, hsome⟩ := source.outcome_of_sized answers live ⟨mode, range, token⟩ site
      (fun heq => hcaught (VersionRange.caughtUp_iff.mpr heq)) hsized
    by_cases hpaths : paths = []
    · exact ⟨_, congrArg Prod.fst (hnone hpaths)⟩
    · obtain ⟨table, htable⟩ := hassembles paths
      have houtcome := hsome hpaths
      rw [htable] at houtcome
      exact ⟨_, congrArg Prod.fst houtcome⟩

/-- Everything is read where there is no checkpoint, and paths are kept where they are found. -/
def readingAll : LiveSettings :=
  SourceSettings.live { basePath := some "lake", strategy := some .uptoLatest, checkExistence := true }

/-- A site with one row in one version, whose object is there. -/
def oneRowSite : Site where
  log := Log.empty.commit [⟨some "landing", some "in/a.parquet", .whole 3⟩]
  probe := ⟨["s3://landing/in/a.parquet"], []⟩

/-- A source that lets all keys pass and checks no path. -/
def openSource : Source Site (List Row) Table :=
  ⟨Memory.platform, {}, ⟨"s3", false, 1, "source"⟩, "source", false⟩

theorem inMemory_openSource : openSource.InMemory Probe.presence := ⟨rfl, rfl⟩

theorem configured_readingAll : Configured readingAll := ⟨⟨"lake", rfl⟩, rfl⟩

/-- Paths are kept where they are found under the scheme, which is given in capitals. -/
def checkingAll : LiveSettings :=
  SourceSettings.live
    { basePath := some "lake", strategy := some .uptoLatest, checkExistence := true, fileSystem := "S3" }

/-- A site with two versions: some rows name one object twice, an object that is gone, or none at all. -/
def mixedSite : Site where
  log := (Log.empty.commit
      [⟨some "landing", some "in/b%2Bc+d.parquet", .whole 3⟩, ⟨some "landing", none, .whole 5⟩]).commit
    [⟨some "landing", some "in/a.parquet", .whole 4⟩, ⟨some "landing", some "in/gone.parquet", .whole 1⟩,
      ⟨some "landing", some "in/a.parquet", .whole 7⟩, ⟨some "landing", some "in/none.parquet", .whole 0⟩]
  probe := ⟨["s3://landing/in/a.parquet", "s3://landing/in/b+c d.parquet"], []⟩

/-- The distinct references of the rows of `mixedSite` that count. -/
def mixedRefs : List Reference :=
  [⟨"landing", "in/a.parquet"⟩, ⟨"landing", "in/b%2Bc+d.parquet"⟩, ⟨"landing", "in/gone.parquet"⟩]

theorem resolution_checkingAll :
    resolution mixedSite.log.versions checkingAll .null = .ok ⟨.snapshot, ⟨-1, 1⟩, "1"⟩ := by
  have hversions : mixedSite.log.versions = [0, 1] := Version.ascending_eq_self (by decide)
  rw [hversions]
  have hstrategy : strategy checkingAll.toSourceSettings = some .uptoLatest := rfl
  refine resolution_afresh ⟨⟨"lake", rfl⟩, rfl⟩ rfl (by decide) hstrategy ?_ rfl
  rw [Version.ascending_eq_self (by decide)]
  rfl

end Source
end ObjectIntake
