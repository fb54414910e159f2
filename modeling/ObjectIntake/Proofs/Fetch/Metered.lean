import ObjectIntake.Proofs.Fetch.Moves
import ObjectIntake.Proofs.Fetch.Pipeline
import ObjectIntake.Proofs.Metrics

/-!
A fetch in memory whose figures may be recorded. Every way in which it comes to an end is one exit, which says
what is handed out, and what the site and the registry are then.
-/
namespace ObjectIntake
open Settings Event ObjectPath Checkpoint Memory Dataset

/-- A scene without its journal. -/
structure Standing (W : Type) where
  world : W
  registry : Registry
  elapsed : Float

section Standing

variable {W α : Type}

def Standing.onWorld (s : Standing W) (f : W → W) : Standing W := { s with world := f s.world }

def Scene.standing (scene : Scene W) : Standing W := ⟨scene.world, scene.registry, scene.elapsed⟩

/-- Nothing is recorded and no time passes. -/
def Scene.SameBooks (before after : Scene W) : Prop :=
  after.registry = before.registry ∧ after.elapsed = before.elapsed

theorem Scene.course_sameBooks : Scene.Course (Scene.SameBooks (W := W)) where
  writes _ _ := ⟨rfl, rfl⟩
  trans hab hbc := ⟨hbc.1.trans hab.1, hbc.2.trans hab.2⟩

/-- Work that records nothing leads to the standing with the world that it leaves. -/
theorem Work.Gives.takes {work : Work W α} {s : Standing W} {r : Except Failure α} {w : W}
    (hgives : work.Gives s.world r w) (hmoves : work.Moves Scene.SameBooks) :
    work.Takes Scene.standing s r { s with world := w } := by
  rintro scene rfl
  obtain ⟨hresult, hworld⟩ := hgives scene rfl
  obtain ⟨hregistry, helapsed⟩ := hmoves scene
  refine ⟨hresult, ?_⟩
  simp only [Scene.standing, hworld, hregistry, helapsed]

end Standing

theorem Memory.probing_moves (answers : Probe → String → Presence) :
    (probing answers).Moves Scene.SameBooks := by
  have h : Scene.Course (Scene.SameBooks (W := Site)) := Scene.course_sameBooks
  have hchange (f : Site → Site) : (Work.change f).Moves Scene.SameBooks := fun _ => ⟨rfl, rfl⟩
  constructor
  case versions => exact fun _ => h.bind h.world fun _ => h.pure _
  case read => exact fun _ _ _ => h.bind (hchange _) fun _ => h.bind h.world fun _ => h.pure _
  case isEmpty => exact fun _ => h.pure _
  case references => exact fun _ _ => h.ofExcept _
  case noteProbes => exact fun _ _ => ⟨rfl, rfl⟩
  case load => exact fun _ _ _ => h.bind (hchange _) fun _ => h.bind h.world fun _ => h.pure _
  case derive => exact fun _ _ => h.pure _

namespace Registry

/-- Counts a fetch that came to an end, and notes the version that it reached. -/
def close (r : Registry) (outcome : Outcome) (seconds : Float) (basePath : String) (version : Int) :
    Registry × Except Failure Unit :=
  (r.recordBatch outcome.name seconds).recordVersion basePath (.whole version)

/-- Counts the references that were selected, the paths that were kept for them, and the drops. -/
def recordSurvey (selected : Nat) (found : Survey) : Registry → Registry × Except Failure Unit :=
  both (fun r => r.recordFiles (.whole selected) (.whole found.paths.length))
    (fun r => r.recordDropped (found.dropped.counts.map fun (reason, n) => (reason, .whole n)))

/-- The numbers of references, of paths and of drops by reason. -/
def surveyFigures (selected : Nat) (found : Survey) : List Int :=
  [(selected : Int), (found.paths.length : Int)] ++ found.dropped.counts.map fun c => (c.2 : Int)

theorem accounts_recordSurvey (selected : Nat) (found : Survey) :
    Accounts (recordSurvey selected found) (surveyFigures selected found) := by
  refine (accounts_recordFiles selected found.paths.length).both (accounts_recordDropped _ ?_)
  intro c hc
  simpa using (List.mem_filter.mp hc).2

theorem batches_close (r : Registry) (outcome : Outcome) (seconds : Float) (basePath : String) (version : Int) :
    (r.close outcome seconds basePath version).1.batches = (r.countBatch outcome.name).batches := by
  have hversion := (accounts_recordVersion basePath version).batches (r.recordBatch outcome.name seconds)
  unfold close
  rw [hversion, recordBatch]

end Registry

namespace Source

/-- Two recordings in a row are one. -/
theorem meter_then {W Rows Data β : Type} {source : Source W Rows Data}
    (f g : Registry → Registry × Except Failure Unit) (rest : Work W β) :
    (do source.meter f; source.meter g; rest) = (do source.meter (Registry.both f g); rest) := by
  have hboth : (Work.meter f >>= fun _ => Work.meter g : Work W Unit) = Work.meter (Registry.both f g) := by
    funext scene
    change ExceptT.bindCont (fun _ => Work.meter g) (f scene.registry).2
      { scene with registry := (f scene.registry).1 } = _
    unfold Work.meter Registry.both
    cases f scene.registry with
    | mk r result =>
      cases result with
      | ok _ => rfl
      | error e => rfl
  unfold meter
  cases source.metered with
  | false => rfl
  | true =>
    simp only [if_true]
    rw [← bind_assoc, hboth]

variable (source : Source Site (List Row) Table) (answers : Probe → String → Presence)
  (live : LiveSettings) (last : Json)

/-- What comes of recording something, if the source records at all. -/
def booked (f : Registry → Registry × Except Failure Unit) (s : Standing Site) :
    Except Failure Unit × Standing Site :=
  if source.metered then ((f s.registry).2, { s with registry := (f s.registry).1 }) else (.ok (), s)

/-- What comes of a fetch that has an outcome: its batch, unless the version that it reached cannot be noted. -/
def ended (outcome : Outcome) (resolved : Resolved) (data : Option Table) (s : Standing Site) :
    Except Failure (Batch Table) × Standing Site :=
  let closed := source.booked
    (fun r => r.close outcome s.elapsed (live.basePath.getD "") resolved.range.upper) s
  (closed.1.map fun _ => ⟨data, resolved.token⟩, closed.2)

/-- The checkpoint resolves to a range that is read. -/
structure Ahead (site : Site) (resolved : Resolved) : Prop where
  resolves : resolution site.log.versions live last = .ok resolved
  rest : resolved.range.caughtUp = false

/-- The references that are selected from the rows of the range. -/
def Selects (site : Site) (resolved : Resolved) (refs : List Reference) : Prop :=
  (source.predicate.references (site.log.rows resolved.range)).map Reference.ascending = .ok refs

/-- The standing after the range was read, and the paths of the references were probed. -/
def surveyed (s : Standing Site) (resolved : Resolved) (refs : List Reference) : Standing Site :=
  s.onWorld fun site =>
    (site.noteRead resolved.mode resolved.range).noteProbes (refs.filterMap source.surveyor.asked)

/-- The survey of the references that is recorded. -/
def surveyOf (site : Site) (refs : List Reference) : Survey :=
  source.surveyor.survey (answers site.probe) refs

def recorded (s : Standing Site) (resolved : Resolved) (refs : List Reference) :
    Except Failure Unit × Standing Site :=
  source.booked (Registry.recordSurvey refs.length (source.surveyOf answers s.world refs))
    (source.surveyed s resolved refs)

/-- The ways in which the stages of a fetch come to an end. -/
inductive Exits (s : Standing Site) : Except Failure (Batch Table) × Standing Site → Prop
  | unresolved {e : Failure} (h : resolution s.world.log.versions live last = .error e) :
      Exits s (.error e, s)
  | caughtUp {resolved : Resolved} (h : resolution s.world.log.versions live last = .ok resolved)
      (hrange : resolved.range.caughtUp = true) :
      Exits s (source.ended live .caughtUp resolved none s)
  | emptyRead {resolved : Resolved} (h : Ahead live last s.world resolved)
      (hrows : s.world.log.rows resolved.range = []) :
      Exits s (source.ended live .emptyRead resolved none
        (s.onWorld (Site.noteRead resolved.mode resolved.range)))
  | unselected {resolved : Resolved} {e : Failure} (h : Ahead live last s.world resolved)
      (hrefs : source.predicate.references (s.world.log.rows resolved.range) = .error e) :
      Exits s (.error e, s.onWorld (Site.noteRead resolved.mode resolved.range))
  | noMatchingFiles {resolved : Resolved} (h : Ahead live last s.world resolved)
      (hrefs : source.Selects s.world resolved []) :
      Exits s (source.ended live .noMatchingFiles resolved none
        (s.onWorld (Site.noteRead resolved.mode resolved.range)))
  | unrecorded {resolved : Resolved} {refs : List Reference} {e : Failure} (h : Ahead live last s.world resolved)
      (hrefs : source.Selects s.world resolved refs)
      (hrecord : (source.recorded answers s resolved refs).1 = .error e) :
      Exits s (.error e, (source.recorded answers s resolved refs).2)
  | noExistingFiles {resolved : Resolved} {refs : List Reference} (h : Ahead live last s.world resolved)
      (hrefs : source.Selects s.world resolved refs) (hrecord : (source.recorded answers s resolved refs).1 = .ok ())
      (hpaths : source.pathsOf (answers s.world.probe) refs = []) :
      Exits s (source.ended live .noExistingFiles resolved none (source.recorded answers s resolved refs).2)
  | unloaded {resolved : Resolved} {refs : List Reference} {e : Failure} (h : Ahead live last s.world resolved)
      (hrefs : source.Selects s.world resolved refs) (hrecord : (source.recorded answers s resolved refs).1 = .ok ())
      (hpaths : source.pathsOf (answers s.world.probe) refs ≠ [])
      (hload : assembled s.world live (source.pathsOf (answers s.world.probe) refs) = .error e) :
      Exits s (.error e, (source.recorded answers s resolved refs).2)
  | loaded {resolved : Resolved} {refs : List Reference} {table : Table} (h : Ahead live last s.world resolved)
      (hrefs : source.Selects s.world resolved refs) (hrecord : (source.recorded answers s resolved refs).1 = .ok ())
      (hpaths : source.pathsOf (answers s.world.probe) refs ≠ [])
      (hload : assembled s.world live (source.pathsOf (answers s.world.probe) refs) = .ok table) :
      Exits s (source.ended live .loaded resolved (some table)
        ((source.recorded answers s resolved refs).2.onWorld
          (Site.noteLoad (source.pathsOf (answers s.world.probe) refs))))

/-- The standing after a fetch: a failure that is reported is counted. -/
def reported (exit : Except Failure (Batch Table) × Standing Site) : Standing Site :=
  match exit with
  | (.ok _, s) => s
  | (.error e, s) =>
      if e.isReported then (source.booked (fun r => (r.recordBatch Outcome.failed.name s.elapsed, .ok ())) s).2
      else s

variable {source answers}

theorem selects_iff {site : Site} {resolved : Resolved} {refs : List Reference} :
    source.Selects site resolved refs ↔
      ∃ found, source.predicate.references (site.log.rows resolved.range) = .ok found ∧
        refs = Reference.ascending found := by
  unfold Selects
  cases source.predicate.references (site.log.rows resolved.range) with
  | error e => simp [Except.map]
  | ok found => simp [Except.map, eq_comm]

theorem Selects.unique {site : Site} {resolved : Resolved} {refs others : List Reference}
    (h : source.Selects site resolved refs) (hothers : source.Selects site resolved others) : refs = others :=
  Except.ok.inj (h.symm.trans hothers)

theorem selects_nil_of_rows {site : Site} {resolved : Resolved} (h : site.log.rows resolved.range = []) :
    source.Selects site resolved [] := by
  unfold Selects
  rw [h]
  rfl

/-- The batch that comes of a range that is read, once the references in it are selected. -/
theorem batch_of_selects {site : Site} {resolved : Resolved} {refs : List Reference}
    (hrange : resolved.range.caughtUp = false) (h : source.Selects site resolved refs) :
    (source.outcome answers live resolved site).1 =
      if source.pathsOf (answers site.probe) refs = [] then .ok ⟨none, resolved.token⟩
      else (assembled site live (source.pathsOf (answers site.probe) refs)).map fun table =>
        ⟨some table, resolved.token⟩ := by
  obtain ⟨found, hfound, rfl⟩ := selects_iff.mp h
  simp only [outcome, hrange, hfound, Bool.false_eq_true, if_false]
  exact apply_ite Prod.fst _ _ _

@[simp] theorem booked_world (f : Registry → Registry × Except Failure Unit) (s : Standing Site) :
    (source.booked f s).2.world = s.world := by
  unfold booked
  split
  next => rfl
  next => rfl

theorem ended_world (outcome : Outcome) (resolved : Resolved) (data : Option Table) (s : Standing Site) :
    (source.ended live outcome resolved data s).2.world = s.world := booked_world _ s

@[simp] theorem recorded_world (s : Standing Site) (resolved : Resolved) (refs : List Reference) :
    (source.recorded answers s resolved refs).2.world = (source.surveyed s resolved refs).world :=
  booked_world _ _

theorem reported_of_ok {exit : Except Failure (Batch Table) × Standing Site} {batch : Batch Table}
    (h : exit.1 = .ok batch) : source.reported exit = exit.2 := by
  obtain ⟨result, s⟩ := exit
  cases h
  rfl

theorem reported_of_error {exit : Except Failure (Batch Table) × Standing Site} {e : Failure}
    (h : exit.1 = .error e) (he : e.isReported = true) :
    source.reported exit =
      (source.booked (fun r => (r.recordBatch Outcome.failed.name exit.2.elapsed, .ok ())) exit.2).2 := by
  obtain ⟨result, s⟩ := exit
  cases h
  exact if_pos he

theorem reported_of_unreported {exit : Except Failure (Batch Table) × Standing Site} {e : Failure}
    (h : exit.1 = .error e) (he : e.isReported = false) : source.reported exit = exit.2 := by
  obtain ⟨result, s⟩ := exit
  cases h
  exact if_neg (by simp [he])

@[simp] theorem reported_world (exit : Except Failure (Batch Table) × Standing Site) :
    (source.reported exit).world = exit.2.world := by
  obtain ⟨result, s⟩ := exit
  cases result with
  | ok batch => rfl
  | error e =>
    unfold reported
    dsimp only
    split
    next => exact booked_world _ s
    next => rfl

theorem meter_takes (f : Registry → Registry × Except Failure Unit) (s : Standing Site) :
    (source.meter f).Takes Scene.standing s (source.booked f s).1 (source.booked f s).2 := by
  rintro scene rfl
  unfold meter booked
  cases source.metered with
  | true => exact ⟨rfl, rfl⟩
  | false => exact ⟨rfl, rfl⟩

theorem count_takes (outcome : Outcome) (s : Standing Site) :
    (source.count outcome).Takes Scene.standing s (.ok ())
      (source.booked (fun r => (r.recordBatch outcome.name s.elapsed, .ok ())) s).2 := by
  rintro scene rfl
  unfold count booked
  have hrun (f : Float → Work Site Unit) : (Work.elapsed >>= f).runIn scene = (f scene.elapsed).runIn scene := rfl
  rw [hrun]
  unfold meter
  cases source.metered with
  | true => exact ⟨rfl, rfl⟩
  | false => exact ⟨rfl, rfl⟩

/-- Two things that are recorded one after the other. -/
theorem booked_then (f : Registry → Registry) (g : Registry → Registry × Except Failure Unit) (s : Standing Site) :
    source.booked (fun r => g (f r)) s = source.booked g (source.booked (fun r => (f r, .ok ())) s).2 := by
  unfold booked
  cases source.metered with
  | true => rfl
  | false => rfl

theorem finish_takes (outcome : Outcome) (resolved : Resolved) (data : Option Table) (s : Standing Site) :
    (source.finish live outcome resolved data).Takes Scene.standing s (source.ended live outcome resolved data s).1
      (source.ended live outcome resolved data s).2 := by
  have hclose := source.booked_then (fun r => r.recordBatch outcome.name s.elapsed)
    (fun r => r.recordVersion (live.basePath.getD "") (.whole resolved.range.upper)) s
  have hended : source.ended live outcome resolved data s =
      ((source.booked _ s).1.map fun _ => ⟨data, resolved.token⟩, (source.booked _ s).2) := rfl
  rw [hended]
  unfold Registry.close
  rw [hclose]
  unfold finish
  refine (count_takes outcome s).bind ?_
  generalize (source.booked (fun r => (r.recordBatch outcome.name s.elapsed, .ok ())) s).2 = counted
  have hnote := source.meter_takes
    (fun r => r.recordVersion (live.basePath.getD "") (.whole resolved.range.upper)) counted
  generalize source.booked (fun r => r.recordVersion _ _) counted = noted at hnote
  obtain ⟨result, after⟩ := noted
  cases result with
  | error e => exact hnote.bind_error
  | ok _ =>
    have hwrite (record : Record) : (Work.write record).Takes Scene.standing after (.ok ()) after :=
      (Work.Gives.write _).takes (Scene.course_sameBooks.write _)
    exact hnote.bind ((hwrite _).bind (Work.Takes.pure _))

variable {live last} in
/-- The last stage of a fetch that has paths to load. -/
theorem load_ends {s : Standing Site} {resolved : Resolved} {refs : List Reference}
    (h : Ahead live last s.world resolved) (hrefs : source.Selects s.world resolved refs)
    (hrecorded : (source.recorded answers s resolved refs).1 = .ok ())
    (hpaths : source.pathsOf (answers s.world.probe) refs ≠ []) :
    (do let data ← assemble (probing answers) source.channel live (source.pathsOf (answers s.world.probe) refs)
        source.finish live .loaded resolved (some data)).Ends Scene.standing
      (source.recorded answers s resolved refs).2 (source.Exits answers live last s) := by
  have hprobing := probing_moves answers
  have hload : Work.Takes Scene.standing _ (source.recorded answers s resolved refs).2 _ _ :=
    (assemble_gives answers source.channel live (source.pathsOf (answers s.world.probe) refs)
      (source.recorded answers s resolved refs).2.world).takes
      (hprobing.assemble Scene.course_sameBooks source.channel live _)
  have hsame : assembled (source.recorded answers s resolved refs).2.world live
      (source.pathsOf (answers s.world.probe) refs) =
        assembled s.world live (source.pathsOf (answers s.world.probe) refs) := by
    rw [recorded_world]
    rfl
  rw [hsame] at hload
  cases htable : assembled s.world live (source.pathsOf (answers s.world.probe) refs) with
  | error e =>
    rw [htable] at hload
    exact ⟨_, .unloaded h hrefs hrecorded hpaths htable, hload.bind_error⟩
  | ok table =>
    rw [htable] at hload
    exact ⟨_, .loaded h hrefs hrecorded hpaths htable, hload.bind (finish_takes live .loaded resolved _ _)⟩

section Stages

variable (hsource : source.platform = probing answers)
include hsource

theorem resolve_takes (s : Standing Site) :
    (source.resolve live last).Takes Scene.standing s (resolution s.world.log.versions live last) s := by
  unfold resolve
  rw [hsource]
  exact (Checkpoint.resolve_gives answers source.channel live last s.world).takes
    ((probing_moves answers).resolve Scene.course_sameBooks _ _ _)

theorem fetchRange_ends {s : Standing Site} {resolved : Resolved}
    (h : resolution s.world.log.versions live last = .ok resolved) :
    (source.fetchRange live resolved).Ends Scene.standing s (source.Exits answers live last s) := by
  have hbooks := Scene.course_sameBooks (W := Site)
  have hprobing := probing_moves answers
  have hlog (channel : String) (level : Level) (message : String) (s : Standing Site) :
      (Work.log channel level message).Takes Scene.standing s (.ok ()) s :=
    (Work.Gives.log _ _ _).takes (hbooks.log _ _ _)
  have hrange := writable_of_resolution h
  have htell {level : Level} {text : Except Failure String} {message : String} (htext : text = .ok message)
      (s : Standing Site) : (Work.tell source.channel level text).Takes Scene.standing s (.ok ()) s :=
    (Work.Gives.tell_ok htext).takes (hbooks.tell _ _ _)
  have hfinish (outcome : Outcome) (data : Option Table) {t : Standing Site}
      (hexit : source.Exits answers live last s (source.ended live outcome resolved data t)) :
      (source.finish live outcome resolved data).Ends Scene.standing t (source.Exits answers live last s) :=
    ⟨_, hexit, finish_takes live outcome resolved data t⟩
  unfold fetchRange
  dsimp only
  by_cases hcaught : resolved.range.caughtUp = true
  · rw [if_pos hcaught]
    have htext := (written_of_range hrange (fun lower => "Already caught up. Begin checkpoint was: " ++ lower)
      fun _ upper => upper).1
    exact (htell htext s).bind_ends (hfinish _ _ (.caughtUp h hcaught))
  rw [if_neg hcaught, hsource]
  have hahead : Ahead live last s.world resolved := ⟨h, by simpa using hcaught⟩
  let rows := s.world.log.rows resolved.range
  let read := s.onWorld (Site.noteRead resolved.mode resolved.range)
  have hread : ((probing answers).read resolved.mode (live.basePath.getD "") resolved.range).Takes
      Scene.standing s (.ok rows) read :=
    (read_gives resolved.mode (live.basePath.getD "") resolved.range s.world).takes
      (hprobing.read resolved.mode (live.basePath.getD "") resolved.range)
  have hempty : ((probing answers).isEmpty rows).Takes Scene.standing read (.ok rows.isEmpty) read :=
    Work.Takes.pure _
  refine hread.bind_ends (hempty.bind_ends ?_)
  by_cases hrows : rows = []
  · rw [if_pos (List.isEmpty_iff.mpr hrows)]
    have htext := (written_of_range hrange id fun lower upper =>
      "No events committed in versions (" ++ lower ++ ", " ++ upper ++ ")").2
    exact (htell htext read).bind_ends (hfinish _ _ (.emptyRead hahead hrows))
  rw [if_neg (mt List.isEmpty_iff.mp hrows)]
  have hselect : (select source.channel (probing answers) source.predicate rows).Takes Scene.standing read
      ((source.predicate.references rows).map Reference.ascending) read :=
    (select_gives source.channel (probing answers) (references_gives source.predicate rows read.world)).takes
      (hprobing.select hbooks source.channel source.predicate rows)
  cases hfound : source.predicate.references rows with
  | error e =>
    rw [hfound] at hselect
    exact ⟨_, .unselected hahead hfound, hselect.bind_error⟩
  | ok found =>
    have hrefs : source.Selects s.world resolved (Reference.ascending found) := congrArg _ hfound
    rw [hfound] at hselect
    refine hselect.bind_ends ?_
    generalize Reference.ascending found = refs at hrefs
    by_cases hnone : refs = []
    · rw [if_pos (List.isEmpty_iff.mpr hnone)]
      exact hfinish _ _ (.noMatchingFiles hahead (hnone ▸ hrefs))
    rw [if_neg (mt List.isEmpty_iff.mp hnone)]
    have hsurvey : (survey (probing answers) source.surveyor refs).Takes Scene.standing read
        (.ok (source.surveyOf answers s.world refs)) (source.surveyed s resolved refs) :=
      (survey_gives source.surveyor refs read.world).takes (hprobing.survey hbooks source.surveyor refs)
    have hpaths : (source.surveyOf answers s.world refs).paths = source.pathsOf (answers s.world.probe) refs :=
      (source.surveyor.survey_paths _ refs).1
    refine hsurvey.bind_ends ?_
    rw [meter_then]
    have hrecord : (source.meter (Registry.recordSurvey refs.length (source.surveyOf answers s.world refs))).Takes
        Scene.standing (source.surveyed s resolved refs) (source.recorded answers s resolved refs).1
        (source.recorded answers s resolved refs).2 := meter_takes _ _
    cases hrecorded : (source.recorded answers s resolved refs).1 with
    | error e =>
      rw [hrecorded] at hrecord
      exact ⟨_, .unrecorded hahead hrefs hrecorded, hrecord.bind_error⟩
    | ok _ =>
      rw [hrecorded] at hrecord
      refine hrecord.bind_ends ((hlog _ _ _ _).bind_ends ?_)
      rw [hpaths]
      by_cases hkept : source.pathsOf (answers s.world.probe) refs = []
      · rw [if_pos (List.isEmpty_iff.mpr hkept)]
        exact hfinish _ _ (.noExistingFiles hahead hrefs hrecorded hkept)
      rw [if_neg (mt List.isEmpty_iff.mp hkept)]
      exact load_ends hahead hrefs hrecorded hkept

/-- A fetch that can be told of comes to one of its exits, and reports the failure if there is one to report. -/
theorem fetch_takes {limit : Json} (hwritable : (last.isWritable && limit.isWritable) = true) (s : Standing Site) :
    ∃ exit, source.Exits answers live last s exit ∧
      (source.fetch live last limit).Takes Scene.standing s exit.1 (source.reported exit) := by
  have hbooks := Scene.course_sameBooks (W := Site)
  have hstages : (do
      let resolved ← source.resolve live last
      source.fetchRange live resolved).Ends Scene.standing s (source.Exits answers live last s) := by
    have hresolve := resolve_takes live last hsource s
    cases hresolved : resolution s.world.log.versions live last with
    | error e =>
      rw [hresolved] at hresolve
      exact ⟨_, .unresolved hresolved, hresolve.bind_error⟩
    | ok resolved =>
      rw [hresolved] at hresolve
      exact hresolve.bind_ends (fetchRange_ends live last hsource hresolved)
  obtain ⟨⟨result, t⟩, hexit, htakes⟩ := hstages
  refine ⟨_, hexit, ?_⟩
  have hlog (message : String) (level : Level) : (Work.log source.channel level message).Takes
      Scene.standing s (.ok ()) s := (Work.Gives.log _ _ _).takes (hbooks.log _ _ _)
  obtain ⟨hlast, hlimit⟩ := Bool.and_eq_true_iff.mp hwritable
  unfold fetch
  rw [Json.writtenAs_of_isWritable hlast, Json.writtenAs_of_isWritable hlimit]
  refine (Work.Takes.ofExcept _).bind ((Work.Takes.ofExcept _).bind ((hlog _ _).bind ?_))
  cases result with
  | ok batch => exact htakes.catch_ok
  | error failure =>
    refine htakes.catch_error ?_
    unfold reported
    dsimp only
    split
    next =>
      have hwrite (record : Record) (t : Standing Site) : (Work.write record).Takes Scene.standing t (.ok ()) t :=
        (Work.Gives.write _).takes (hbooks.write _)
      exact ((count_takes .failed t).bind (hwrite _ _)).bind (Work.Takes.throw failure)
    next => exact Work.Takes.throw failure

end Stages
end Source
end ObjectIntake
