import ObjectIntake.Proofs.Fetch.Metered
import ObjectIntake.Proofs.Json.Numbers

/-!
Which failures a fetch can end with. Those of the configuration and of the resolution are reported and counted.
The few others come from numbers that are too long to be written, read or recorded.
-/
namespace ObjectIntake
open Settings Event ObjectPath Checkpoint Memory Dataset

namespace Checkpoint

theorem startOf_failure {last : Json} (hlast : last = .null ∨ ∃ token, last = .str token) {e : Failure}
    (h : startOf (normalize last) = .error e) : e.isReported = true := by
  rcases hlast with rfl | ⟨token, rfl⟩
  · cases h
  · by_cases hempty : token = ""
    · rw [normalize, if_pos hempty] at h
      cases h
    · rw [normalize, if_neg hempty] at h
      change (parse (.str token)).map some = _ at h
      unfold parse at h
      dsimp only at h
      split at h
      next => cases h
      next =>
        cases h
        rfl

theorem planned_failure {versions : List Int} {s : LiveSettings} {last : Json} {lower : Option Int}
    {strategy : Option Strategy} {e : Failure}
    (h : (do let plan ← planOf versions s lower strategy
             let token ← format plan.range.upper
             let _ ← resolvedText last plan
             return (⟨plan.mode, plan.range, token⟩ : Resolved)) = .error e) :
    e.isReported = true ∨ e = .integerTooLong := by
  rcases Work.bind_eq_error.mp h with h | ⟨plan, -, h⟩
  · unfold planOf at h
    split at h
    next =>
      cases h
      exact .inl rfl
    next =>
      cases h
      exact .inl rfl
    next => exact .inr (warned_failure h)
  rcases Work.bind_eq_error.mp h with h | ⟨token, -, h⟩
  · exact .inr (Numeral.written_failure h)
  rcases Work.bind_eq_error.mp h with h | ⟨message, -, h⟩
  · exact .inr (resolvedText_failure h)
  · cases h

/-- Under settings that were validated, a checkpoint fails to resolve in a way that is reported, unless an integer that
is to be told of has more digits than can be written. -/
theorem resolution_failure {versions : List Int} {s : SourceSettings} {last : Json}
    (hlast : last = .null ∨ ∃ token, last = .str token) {e : Failure}
    (h : resolution versions s.live last = .error e) : e.isReported = true ∨ e = .integerTooLong := by
  have hcheck (u : Use) : s.live.check u = .ok () := LiveSettings.check_live s u
  unfold resolution at h
  rcases Work.bind_eq_error.mp h with h | ⟨_, -, h⟩
  · unfold requiredBasePath at h
    split at h <;> cases h
    all_goals exact .inl rfl
  rcases Work.bind_eq_error.mp h with h | ⟨_, -, h⟩
  · unfold checkedSize at h
    rw [hcheck] at h
    rcases Work.bind_eq_error.mp h with h | ⟨_, -, h⟩
    · cases h
    · split at h
      next =>
        rcases Work.bind_eq_error.mp h with h | ⟨size, -, h⟩
        · exact .inr (Numeral.written_failure h)
        · cases h
          exact .inl rfl
      next => cases h
  rcases Work.bind_eq_error.mp h with h | ⟨strategy, -, h⟩
  · unfold checkedStrategy at h
    rw [hcheck] at h
    split at h <;> cases h
  rcases Work.bind_eq_error.mp h with h | ⟨lower, -, h⟩
  · exact .inl (startOf_failure hlast h)
  dsimp only at h
  rw [hcheck] at h
  split at h
  next => exact planned_failure h
  next => exact planned_failure h

end Checkpoint

namespace Dataset

/-- Under settings that were validated, a batch of some paths fails to load in a way that is reported, unless the
reader options cannot be read. -/
theorem assembled_failure {site : Site} {s : SourceSettings} {paths : List String} (hpaths : paths ≠ [])
    {e : Failure} (h : assembled site s.live paths = .error e) :
    e.isReported = true ∨ readOptions site.depth s.readerOptions = .error e := by
  have hcheck (u : Use) : s.live.check u = .ok () := LiveSettings.check_live s u
  unfold assembled at h
  rw [hcheck] at h
  rcases Work.bind_eq_error.mp h with h | ⟨_, -, h⟩
  · cases h
  rcases Work.bind_eq_error.mp h with h | ⟨options, -, h⟩
  · exact .inr h
  rcases Work.bind_eq_error.mp h with h | ⟨column, -, h⟩
  · left
    unfold columnOf at h
    rw [hcheck] at h
    rcases Work.bind_eq_error.mp h with h | ⟨_, -, h⟩
    · cases h
    split at h
    next =>
      split at h
      next => exact absurd rfl hpaths
      next =>
        split at h <;> cases h
        rfl
    next => cases h
  · dsimp only at h
    split at h <;> cases h

theorem assembled_of_unreadable {site : Site} {s : SourceSettings} {paths : List String} {e : Failure}
    (h : readOptions site.depth s.readerOptions = .error e) : assembled site s.live paths = .error e := by
  unfold assembled
  rw [LiveSettings.check_live]
  exact Work.bind_eq_error.mpr (.inr ⟨(), rfl, Work.bind_eq_error.mpr (.inl h)⟩)

/-- An integer with too many digits in the options is not reported. -/
theorem readOptions_tooLong {depth : Nat} {raw : String} (hraw : raw ≠ "") {digits left : Nat}
    (h : Json.read depth raw = .error ⟨.integerTooLong digits, left⟩) :
    readOptions depth (some raw) = .error (.numeralTooLong digits) := by
  unfold readOptions
  split
  next hnone => cases hnone
  next hempty => exact absurd (Option.some.inj hempty) hraw
  next _ raw' _ hsome =>
    obtain rfl := Option.some.inj hsome
    rw [h]

end Dataset

namespace Source

section Exits

variable {source : Source Site (List Row) Table} {answers : Probe → String → Presence} {live : LiveSettings}
  {last : Json} {s : Standing Site} {exit : Except Failure (Batch Table) × Standing Site}

/-- Figures that the source records of the survey of some references do not fit a double. -/
def Overflows (source : Source Site (List Row) Table) (answers : Probe → String → Presence) (site : Site)
    (refs : List Reference) : Prop :=
  source.metered = true ∧
    ∃ n ∈ Registry.surveyFigures refs.length (source.surveyOf answers site refs), Figure.Overflows n

/-- What is recorded of a survey leaves the fetches as they are counted, and is accepted if its figures fit. -/
theorem recorded_cases (source : Source Site (List Row) Table) (answers : Probe → String → Presence)
    (s : Standing Site) (resolved : Resolved) (refs : List Reference) :
    (source.recorded answers s resolved refs).2.registry.batches = s.registry.batches ∧
      (source.Overflows answers s.world refs ∧ (source.recorded answers s resolved refs).1 = .error .tooLarge ∨
        ¬ source.Overflows answers s.world refs ∧ (source.recorded answers s resolved refs).1 = .ok ()) := by
  have haccounts := Registry.accounts_recordSurvey refs.length (source.surveyOf answers s.world refs)
  unfold recorded booked Overflows
  cases source.metered with
  | false => simp [surveyed, Standing.onWorld]
  | true =>
    simp only [if_true, haccounts.batches, true_and]
    refine ⟨rfl, ?_⟩
    by_cases hover : ∃ n ∈ Registry.surveyFigures refs.length (source.surveyOf answers s.world refs), Figure.Overflows n
    · exact .inl ⟨hover, haccounts.refused hover _⟩
    · exact .inr ⟨hover, haccounts.accepted hover _⟩

/-- A fetch with an outcome hands out its batch and is counted, if the version that it reached fits a double. -/
theorem ended_cases (source : Source Site (List Row) Table) (live : LiveSettings) (outcome : Outcome)
    (resolved : Resolved) (data : Option Table) (s : Standing Site) :
    (source.metered = true ∧ Figure.Overflows resolved.range.upper) ∧
        (source.ended live outcome resolved data s).1 = .error .tooLarge ∨
      ¬ (source.metered = true ∧ Figure.Overflows resolved.range.upper) ∧
        (source.ended live outcome resolved data s).1 = .ok ⟨data, resolved.token⟩ ∧
        (source.metered = true → (source.ended live outcome resolved data s).2.registry.batches =
          (s.registry.countBatch outcome.name).batches) := by
  have haccounts := Registry.accounts_recordVersion (live.basePath.getD "") resolved.range.upper
  unfold ended booked
  cases source.metered with
  | false => exact .inr (by simp [Except.map])
  | true =>
    simp only [if_true, true_and, Registry.batches_close]
    by_cases hover : Figure.Overflows resolved.range.upper
    · have herror := haccounts.refused (by simpa using hover) (s.registry.recordBatch outcome.name s.elapsed)
      exact .inl ⟨hover, congrArg (Except.map _) herror⟩
    · have hok := haccounts.accepted (by simpa using hover) (s.registry.recordBatch outcome.name s.elapsed)
      exact .inr ⟨hover, congrArg (Except.map _) hok, fun _ => trivial⟩

/-- What stops a fetch before it has an outcome. -/
inductive Stops (source : Source Site (List Row) Table) (answers : Probe → String → Presence) (live : LiveSettings)
    (last : Json) (site : Site) : Failure → Prop
  | unresolved {e : Failure} (h : resolution site.log.versions live last = .error e) :
      Stops source answers live last site e
  | unselected {resolved : Resolved} {e : Failure} (h : Ahead live last site resolved)
      (hrefs : source.predicate.references (site.log.rows resolved.range) = .error e) :
      Stops source answers live last site e
  | unrecorded {resolved : Resolved} {refs : List Reference} (h : Ahead live last site resolved)
      (hrefs : source.Selects site resolved refs) (hover : source.Overflows answers site refs) :
      Stops source answers live last site .tooLarge
  | unloaded {resolved : Resolved} {refs : List Reference} {e : Failure} (h : Ahead live last site resolved)
      (hrefs : source.Selects site resolved refs) (hfits : ¬ source.Overflows answers site refs)
      (hpaths : source.pathsOf (answers site.probe) refs ≠ [])
      (hload : assembled site live (source.pathsOf (answers site.probe) refs) = .error e) :
      Stops source answers live last site e

/-- A fetch has an outcome: a batch comes of its range, and its figures fit. -/
structure Completes (source : Source Site (List Row) Table) (answers : Probe → String → Presence)
    (live : LiveSettings) (last : Json) (site : Site) (resolved : Resolved) (data : Option Table) : Prop where
  resolves : resolution site.log.versions live last = .ok resolved
  batch : (source.outcome answers live resolved site).1 = .ok ⟨data, resolved.token⟩
  fits : ∀ refs, resolved.range.caughtUp = false → source.Selects site resolved refs →
    ¬ source.Overflows answers site refs

theorem not_overflows_nil (source : Source Site (List Row) Table) (answers : Probe → String → Presence)
    (site : Site) : ¬ source.Overflows answers site [] := by
  rintro ⟨-, n, hn, hover⟩
  have hnone : source.surveyOf answers site [] = {} := rfl
  rw [hnone] at hn
  have hzero : n = 0 := by simpa [Registry.surveyFigures, Dropped.counts] using hn
  exact Figure.not_overflows_of_natAbs_lt (by rw [hzero]; decide) hover

/-- A fetch is stopped, or it has an outcome. -/
theorem Exits.stops_or_completes (h : source.Exits answers live last s exit) :
    (∃ e, source.Stops answers live last s.world e ∧ exit.1 = .error e ∧
      exit.2.registry.batches = s.registry.batches) ∨
    ∃ resolved data outcome t, source.Completes answers live last s.world resolved data ∧ outcome ≠ .failed ∧
      t.registry.batches = s.registry.batches ∧ exit = source.ended live outcome resolved data t := by
  have hfits {resolved : Resolved} {refs : List Reference} (hrefs : source.Selects s.world resolved refs)
      (hnot : ¬ source.Overflows answers s.world refs) (others : List Reference)
      (hothers : source.Selects s.world resolved others) : ¬ source.Overflows answers s.world others := by
    rwa [← hrefs.unique hothers]
  cases h with
  | unresolved h => exact .inl ⟨_, .unresolved h, rfl, rfl⟩
  | unselected h hrefs => exact .inl ⟨_, .unselected h hrefs, rfl, rfl⟩
  | @caughtUp resolved h hrange =>
    refine .inr ⟨resolved, none, .caughtUp, s, ⟨h, ?_, ?_⟩, by decide, rfl, rfl⟩
    · simp [outcome, hrange]
    · simp [hrange]
  | @emptyRead resolved h hrows =>
    have hrefs := source.selects_nil_of_rows hrows
    refine .inr ⟨resolved, none, .emptyRead, _, ⟨h.resolves, ?_, fun others _ => ?_⟩, by decide, ?_, rfl⟩
    · simp [batch_of_selects live h.rest hrefs, pathsOf]
    · exact hfits hrefs (source.not_overflows_nil answers s.world) others
    · rfl
  | @noMatchingFiles resolved h hrefs =>
    refine .inr ⟨resolved, none, .noMatchingFiles, _, ⟨h.resolves, ?_, fun others _ => ?_⟩, by decide, ?_, rfl⟩
    · simp [batch_of_selects live h.rest hrefs, pathsOf]
    · exact hfits hrefs (source.not_overflows_nil answers s.world) others
    · rfl
  | @unrecorded resolved refs e h hrefs hrecord =>
    obtain ⟨hbatches, ⟨hover, herror⟩ | ⟨-, hok⟩⟩ := source.recorded_cases answers s resolved refs
    · cases hrecord.symm.trans herror
      exact .inl ⟨_, .unrecorded h hrefs hover, rfl, hbatches⟩
    · cases hrecord.symm.trans hok
  | @noExistingFiles resolved refs h hrefs hrecord hpaths =>
    obtain ⟨hbatches, ⟨-, herror⟩ | ⟨hnot, -⟩⟩ := source.recorded_cases answers s resolved refs
    · cases hrecord.symm.trans herror
    refine .inr ⟨resolved, none, .noExistingFiles, _, ⟨h.resolves, ?_, fun others _ => ?_⟩, by decide, hbatches, rfl⟩
    · rw [batch_of_selects live h.rest hrefs, if_pos hpaths]
    · exact hfits hrefs hnot others
  | @unloaded resolved refs e h hrefs hrecord hpaths hload =>
    obtain ⟨hbatches, ⟨-, herror⟩ | ⟨hnot, -⟩⟩ := source.recorded_cases answers s resolved refs
    · cases hrecord.symm.trans herror
    exact .inl ⟨_, .unloaded h hrefs hnot hpaths hload, rfl, hbatches⟩
  | @loaded resolved refs table h hrefs hrecord hpaths hload =>
    obtain ⟨hbatches, ⟨-, herror⟩ | ⟨hnot, -⟩⟩ := source.recorded_cases answers s resolved refs
    · cases hrecord.symm.trans herror
    refine .inr ⟨resolved, some table, .loaded, (source.recorded answers s resolved refs).2.onWorld _,
      ⟨h.resolves, ?_, fun others _ => ?_⟩, by decide, hbatches, rfl⟩
    · rw [batch_of_selects live h.rest hrefs, if_neg hpaths, hload]
      rfl
    · exact hfits hrefs hnot others

end Exits

variable (source : Source Site (List Row) Table) (answers : Probe → String → Presence) (s : SourceSettings)
  (last limit : Json) (site : Site)

/-- A fetch goes wrong in a way that no source reports. -/
inductive Slips : Prop
  /-- The limit has too many digits to be told of. -/
  | limit (h : limit.isWritable = false)
  /-- The version that the checkpoint leads to has too many digits for a token. -/
  | token (h : resolution site.log.versions s.live last = .error .integerTooLong)
  /-- The reader options hold an integer with too many digits, or are nested too deep. -/
  | options {resolved : Resolved} {refs : List Reference} {e : Failure} (h : Ahead s.live last site resolved)
      (hrefs : source.Selects site resolved refs) (hpaths : source.pathsOf (answers site.probe) refs ≠ [])
      (hoptions : readOptions site.depth s.readerOptions = .error e) (he : e.isReported = false)
  /-- The numbers of references and paths are recorded and do not fit a double. -/
  | figures {resolved : Resolved} {refs : List Reference} (h : Ahead s.live last site resolved)
      (hrefs : source.Selects site resolved refs) (hover : source.Overflows answers site refs)
  /-- The version that is reached is recorded and does not fit a double. -/
  | version {resolved : Resolved} {batch : Batch Table} (hmetered : source.metered = true)
      (h : resolution site.log.versions s.live last = .ok resolved)
      (hbatch : (source.outcome answers s.live resolved site).1 = .ok batch)
      (hover : Figure.Overflows resolved.range.upper)

variable {source answers s last limit site}

/-- What stops a fetch is reported, unless the fetch slips. -/
theorem Stops.slips_of_unreported {e : Failure} (h : source.Stops answers s.live last site e)
    (hlast : last = .null ∨ ∃ token, last = .str token)
    (hsized : ∀ c ∈ site.log.commits, ∀ r ∈ c.2, r.Sized) (he : e.isReported = false) :
    source.Slips answers s last limit site := by
  cases h with
  | unresolved h =>
    rcases resolution_failure hlast h with hreported | rfl
    · cases he.symm.trans hreported
    · exact .token h
  | @unselected resolved _ h hrefs =>
    have hrows : ∀ r ∈ site.log.rows resolved.range, r.Sized := by
      intro r hr
      obtain ⟨c, hc, -, hmem⟩ := Log.mem_rows.mp hr
      exact hsized c hc r hmem
    obtain ⟨found, hfound, -⟩ := source.predicate.references_of_sized _ hrows
    cases hrefs.symm.trans hfound
  | unrecorded h hrefs hover => exact .figures h hrefs hover
  | unloaded h hrefs hfits hpaths hload =>
    rcases assembled_failure hpaths hload with hreported | hoptions
    · cases he.symm.trans hreported
    · exact .options h hrefs hpaths hoptions he

/-- A fetch that slips is stopped by a failure that is not reported, if it is stopped. -/
theorem Slips.unreported_of_stops (hslips : source.Slips answers s last limit site) (hlimit : limit.isWritable = true)
    {e : Failure} (h : source.Stops answers s.live last site e) : e.isReported = false := by
  cases h with
  | unresolved h =>
    cases hslips with
    | limit hl => cases hl.symm.trans hlimit
    | token ht => cases h.symm.trans ht; rfl
    | options hahead => cases h.symm.trans hahead.resolves
    | figures hahead => cases h.symm.trans hahead.resolves
    | version _ hresolved => cases h.symm.trans hresolved
  | @unselected resolved _ h hrefs =>
    have hnone {refs : List Reference} (hrefs' : source.Selects site resolved refs) : False := by
      obtain ⟨found, hfound, -⟩ := selects_iff.mp hrefs'
      cases hrefs.symm.trans hfound
    cases hslips with
    | limit hl => cases hl.symm.trans hlimit
    | token ht => cases h.resolves.symm.trans ht
    | options hahead hrefs' =>
      cases h.resolves.symm.trans hahead.resolves
      exact (hnone hrefs').elim
    | figures hahead hrefs' =>
      cases h.resolves.symm.trans hahead.resolves
      exact (hnone hrefs').elim
    | version _ hresolved hbatch =>
      cases h.resolves.symm.trans hresolved
      simp [outcome, h.rest, hrefs] at hbatch
  | unrecorded => rfl
  | unloaded h hrefs hfits hpaths hload =>
    cases hslips with
    | limit hl => cases hl.symm.trans hlimit
    | token ht => cases h.resolves.symm.trans ht
    | options hahead hrefs' hpaths' hoptions he =>
      cases hload.symm.trans (assembled_of_unreadable hoptions)
      exact he
    | figures hahead hrefs' hover =>
      cases h.resolves.symm.trans hahead.resolves
      obtain rfl := hrefs.unique hrefs'
      exact absurd hover hfits
    | version _ hresolved hbatch =>
      cases h.resolves.symm.trans hresolved
      rw [batch_of_selects s.live h.rest hrefs, if_neg hpaths, hload] at hbatch
      cases hbatch

/-- A fetch that slips and is not stopped does not note the version that it reached. -/
theorem Slips.overflows_of_completes (hslips : source.Slips answers s last limit site)
    (hlimit : limit.isWritable = true) {resolved : Resolved} {data : Option Table}
    (h : source.Completes answers s.live last site resolved data) :
    source.metered = true ∧ Figure.Overflows resolved.range.upper := by
  cases hslips with
  | limit hl => cases hl.symm.trans hlimit
  | token ht => cases h.resolves.symm.trans ht
  | options hahead hrefs hpaths hoptions he =>
    cases h.resolves.symm.trans hahead.resolves
    have hbatch := h.batch
    rw [batch_of_selects s.live hahead.rest hrefs, if_neg hpaths, assembled_of_unreadable hoptions] at hbatch
    cases hbatch
  | figures hahead hrefs hover =>
    cases h.resolves.symm.trans hahead.resolves
    exact absurd hover (h.fits _ hahead.rest hrefs)
  | version hmetered hresolved hbatch hover =>
    cases h.resolves.symm.trans hresolved
    exact ⟨hmetered, hover⟩

/-- A fetch of a source that was built, under settings that were validated, ends with a batch or with a failure of
the configuration or the resolution, unless it slips. If its figures are recorded it is counted once, as failed
exactly if it failed. -/
theorem fetch_fails_reported {hasProbe metered : Bool} {built : LiveSettings} {channel : String}
    (hbuild : build (probing answers) hasProbe built channel metered = .ok source)
    (hlast : last = .null ∨ ∃ token, last = .str token) (limit : Json) (scene : Scene Site)
    (hsized : ∀ c ∈ scene.world.log.commits, ∀ r ∈ c.2, r.Sized) :
    let run := (source.fetch s.live last limit).runIn scene
    ((∃ e, run.1 = .error e ∧ e.isReported = false) ↔ source.Slips answers s last limit scene.world) ∧
      (¬ source.Slips answers s last limit scene.world → metered = true →
        ∃ outcome : Outcome, scene.registry.CountsOne run.2.registry outcome.name ∧
          (outcome = .failed ↔ ∃ e, run.1 = .error e)) := by
  have hsource := build_eq_ok hbuild
  have hmetered : source.metered = metered := by rw [hsource]
  have hplatform : source.platform = probing answers := by rw [hsource]
  by_cases hlimit : limit.isWritable = true
  swap
  · -- The limit cannot be told of, and nothing is done.
    have hslips : source.Slips answers s last limit scene.world := .limit (by simpa using hlimit)
    have hnone := fetch_unwritten source s.live last limit (by simp [hlimit]) scene
    exact ⟨iff_of_true ⟨_, congrArg Prod.fst hnone, rfl⟩ hslips, fun hnot => absurd hslips hnot⟩
  have hwritable : (last.isWritable && limit.isWritable) = true := by
    rcases hlast with rfl | ⟨token, rfl⟩
    · exact hlimit
    · exact hlimit
  obtain ⟨exit, hexit, htakes⟩ := fetch_takes s.live last hplatform hwritable scene.standing
  have hstanding : scene.standing = scene.standing := rfl
  have hresult := htakes.result_eq hstanding
  have hafter : ((source.fetch s.live last limit).runIn scene).2.registry = (source.reported exit).registry :=
    congrArg Standing.registry (htakes.view_eq hstanding)
  dsimp only
  rw [hresult, hafter]
  rcases hexit.stops_or_completes with ⟨e, hstops, herror, hbatches⟩ |
    ⟨resolved, data, outcome, t, hcompletes, hne, hbatches, rfl⟩
  · -- The fetch was stopped.
    constructor
    · constructor
      · rintro ⟨e', he', hunreported⟩
        cases herror.symm.trans he'
        exact hstops.slips_of_unreported hlast hsized hunreported
      · intro hslips
        exact ⟨e, herror, hslips.unreported_of_stops hlimit hstops⟩
    · intro hnot hmeters
      have hreported : e.isReported = true := by
        by_contra hfalse
        exact hnot (hstops.slips_of_unreported hlast hsized (by simpa using hfalse))
      have hcounted : (source.reported exit).registry.batches =
          (exit.2.registry.countBatch Outcome.failed.name).batches := by
        simp [reported_of_error herror hreported, booked, hmetered, hmeters, Registry.recordBatch]
      refine ⟨.failed, ?_, fun _ => ⟨e, herror⟩, fun _ => rfl⟩
      exact (Registry.countBatch_countsOne _ _).congr hbatches.symm hcounted
  · rcases source.ended_cases s.live outcome resolved data t with
      ⟨⟨hmeters, hover⟩, herror⟩ | ⟨hfits, hok, hcounted⟩
    · -- The version that it reached could not be noted.
      have hslips : source.Slips answers s last limit scene.world :=
        .version hmeters hcompletes.resolves hcompletes.batch hover
      exact ⟨⟨fun _ => hslips, fun _ => ⟨_, herror, rfl⟩⟩, fun hnot => absurd hslips hnot⟩
    · constructor
      · constructor
        · rintro ⟨e, he, -⟩
          cases hok.symm.trans he
        · intro hslips
          exact absurd (hslips.overflows_of_completes hlimit hcompletes) hfits
      · intro _ hmeters
        refine ⟨outcome, ?_, fun h => absurd h hne, ?_⟩
        · rw [reported_of_ok hok]
          exact (Registry.countBatch_countsOne _ _).congr hbatches.symm (hcounted (hmetered.trans hmeters))
        · rintro ⟨e, he⟩
          cases hok.symm.trans he

/-- Settings that read all versions and load what the events name. -/
def plainSettings : SourceSettings := { basePath := some "lake", strategy := some .uptoLatest }

theorem resolution_oneRowSite {s : LiveSettings} (hs : Configured s) (hcheck : s.check .sizeCheck = .ok ())
    (hsize : 1 ≤ s.fetchSize) (hstrategy : strategy s.toSourceSettings = some .uptoLatest) :
    resolution oneRowSite.log.versions s .null = .ok ⟨.snapshot, ⟨-1, 0⟩, "0"⟩ := by
  have hversions : oneRowSite.log.versions = [0] := Version.ascending_eq_self (List.pairwise_singleton _ _)
  rw [hversions]
  exact resolution_of_one_version hs hcheck hsize hstrategy rfl

theorem fetch_fails_reported_oneRowSite :
    ∃ source, build (probing Probe.presence) false plainSettings.live "source" true = .ok source ∧
      (∀ c ∈ oneRowSite.log.commits, ∀ r ∈ c.2, r.Sized) ∧
      ∃ outcome : Outcome,
        Registry.empty.CountsOne
          ((source.fetch plainSettings.live .null .null).runIn (Scene.start oneRowSite)).2.registry outcome.name ∧
        (outcome = .failed ↔
          ∃ e, ((source.fetch plainSettings.live .null .null).runIn (Scene.start oneRowSite)).1 = .error e) := by
  have hsized : ∀ c ∈ oneRowSite.log.commits, ∀ r ∈ c.2, r.Sized := by
    intro c hc r hr
    obtain rfl := List.mem_singleton.mp hc
    obtain rfl := List.mem_singleton.mp hr
    exact Or.inr ⟨3, rfl⟩
  obtain ⟨source, hbuild⟩ : ∃ source,
      build (probing Probe.presence) false plainSettings.live "source" true = .ok source := ⟨_, rfl⟩
  have hsource := build_eq_ok hbuild
  have hresolved := resolution_oneRowSite (s := plainSettings.live) ⟨⟨"lake", rfl⟩, rfl⟩ rfl (by decide) rfl
  have hselects : source.Selects oneRowSite ⟨.snapshot, ⟨-1, 0⟩, "0"⟩ [⟨"landing", "in/a.parquet"⟩] := by
    rw [hsource]
    rfl
  have hsmall : ∀ n ∈ Registry.surveyFigures 1
      (source.surveyOf Probe.presence oneRowSite [⟨"landing", "in/a.parquet"⟩]), n.natAbs < Numeral.twoTo 53 := by
    rw [hsource]
    decide +kernel
  have hnot : ¬ source.Slips Probe.presence
      plainSettings .null .null oneRowSite := by
    rintro (hlimit | h | ⟨-, -, -, hoptions, -⟩ | ⟨h, hrefs, -, n, hn, hover⟩ | ⟨-, h, -, hover⟩)
    · cases hlimit
    · cases hresolved.symm.trans h
    · cases hoptions
    · cases hresolved.symm.trans h.resolves
      obtain rfl := hselects.unique hrefs
      exact Figure.not_overflows_of_natAbs_lt (hsmall n hn) hover
    · cases hresolved.symm.trans h
      exact Figure.not_overflows_of_natAbs_lt (by decide) hover
  obtain ⟨-, hcounted⟩ := fetch_fails_reported hbuild (.inl rfl) .null (Scene.start oneRowSite) hsized
  exact ⟨source, hbuild, hsized, hcounted hnot rfl⟩

/-- The options of a reader with a number of so many digits. -/
def longOptions (digits : Nat) : String :=
  String.ofList ('\x7b' :: ((Json.stringText Json.ascii "rows").toList ++
    ':' :: (List.replicate digits '1' ++ ['\x7d'])))

theorem readOptions_longOptions (depth : Nat) {digits : Nat} (h : Numeral.digitLimit < digits) :
    readOptions (depth + 1) (some (longOptions digits)) = .error (.numeralTooLong digits) := by
  have hdigits : ∀ d ∈ List.replicate digits '1', d.isDigit = true := by
    intro d hd
    rw [List.eq_of_mem_replicate hd]
    decide
  have hend : Json.EndsNumber ['\x7d'] := by
    intro c hc
    obtain rfl : '\x7d' = c := Option.some.inj hc
    decide
  have hfirst : (List.replicate digits '1').head? ≠ some '0' := by
    rw [List.head?_replicate]
    split
    next => decide
    next => decide
  have hlength : Numeral.digitLimit < (List.replicate digits '1').length := by rwa [List.length_replicate]
  obtain ⟨left, hread⟩ := Json.read_tooLong hdigits hend depth "rows" hfirst hlength
  rw [List.length_replicate] at hread
  refine readOptions_tooLong ?_ hread
  intro hempty
  have hnil := congrArg String.toList hempty
  rw [longOptions, String.toList_ofList] at hnil
  cases hnil

def longSettings : SourceSettings := { plainSettings with readerOptions := some (longOptions (Numeral.digitLimit + 1)) }

/-- Here a fetch fails in a way that is neither reported nor counted. -/
theorem fetch_fails_unreported :
    ∃ source, build (probing Probe.presence) false longSettings.live "source" true = .ok source ∧
      let run := (source.fetch longSettings.live .null .null).runIn (Scene.start oneRowSite)
      (∃ e, run.1 = .error e ∧ e.isReported = false) ∧
        ∀ outcome : Outcome, ¬ Registry.empty.CountsOne run.2.registry outcome.name := by
  obtain ⟨source, hbuild⟩ : ∃ source,
      build (probing Probe.presence) false longSettings.live "source" true = .ok source := ⟨_, rfl⟩
  have hsource := build_eq_ok hbuild
  have hplatform : source.platform = probing Probe.presence := by rw [hsource]
  have hconfigured : Configured longSettings.live := ⟨⟨"lake", rfl⟩, rfl⟩
  have hresolved := resolution_oneRowSite hconfigured rfl (by decide) rfl
  have hrefs : source.Selects oneRowSite ⟨.snapshot, ⟨-1, 0⟩, "0"⟩ [⟨"landing", "in/a.parquet"⟩] := by
    rw [hsource]
    rfl
  have hpaths : source.pathsOf (Probe.presence oneRowSite.probe) [⟨"landing", "in/a.parquet"⟩] ≠ [] := by
    rw [hsource]
    decide +kernel
  have hslips : source.Slips Probe.presence longSettings .null .null oneRowSite :=
    .options ⟨hresolved, rfl⟩ hrefs hpaths (readOptions_longOptions _ (Nat.lt_succ_self _)) rfl
  refine ⟨source, hbuild, ?_⟩
  have hwritable : (Json.null.isWritable && Json.null.isWritable) = true := rfl
  obtain ⟨exit, hexit, htakes⟩ :=
    fetch_takes longSettings.live .null hplatform hwritable (Scene.start oneRowSite).standing
  have hstanding : (Scene.start oneRowSite).standing = (Scene.start oneRowSite).standing := rfl
  have hresult := htakes.result_eq hstanding
  have hafter := congrArg Standing.registry (htakes.view_eq hstanding)
  rcases hexit.stops_or_completes with
    ⟨e, hstops, herror, hbatches⟩ | ⟨resolved, data, _, _, hcompletes, -, -, -⟩
  · have hunreported := hslips.unreported_of_stops rfl hstops
    rw [reported_of_unreported herror hunreported] at hafter
    refine ⟨⟨e, hresult.trans herror, hunreported⟩, fun outcome hcounts => ?_⟩
    have hnone :
        ((source.fetch longSettings.live .null .null).runIn (Scene.start oneRowSite)).2.registry.batches = [] :=
      (congrArg Registry.batches hafter).trans hbatches
    have hone := hcounts.own 0 rfl (by decide)
    rw [hnone] at hone
    cases hone
  · cases hresolved.symm.trans hcompletes.resolves
    have hover := (hslips.overflows_of_completes rfl hcompletes).2
    exact absurd hover (Figure.not_overflows_of_natAbs_lt (by decide))

end Source
end ObjectIntake
