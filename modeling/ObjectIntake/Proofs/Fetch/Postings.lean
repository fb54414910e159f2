import ObjectIntake.Proofs.Fetch.Metered
import ObjectIntake.Proofs.Metrics.Ledger

/-!
What a fetch enters in the registry, on any platform that records nothing there itself. A fetch enters the survey of
the references that it selects, then its outcome, and the version that it reached.
-/
namespace ObjectIntake
open Settings Event ObjectPath Checkpoint

variable {W Rows Data α β : Type}

/-- From this scene the work comes to one of the exits. -/
def Work.Leads (work : Work W α) (scene : Scene W) (exits : Except Failure α × Scene W → Prop) : Prop :=
  exits (work.runIn scene)

theorem Work.Leads.bind {x : Work W α} {f : α → Work W β} {scene : Scene W}
    {exits : Except Failure β × Scene W → Prop}
    (hok : ∀ a, (x.runIn scene).1 = .ok a → (f a).Leads (x.runIn scene).2 exits)
    (herror : ∀ e, (x.runIn scene).1 = .error e → exits (.error e, (x.runIn scene).2)) :
    (x >>= f).Leads scene exits := by
  unfold Leads
  cases hx : (x.runIn scene).1 with
  | ok a =>
    rw [runIn_bind_ok hx]
    exact hok a hx
  | error e =>
    rw [runIn_bind_error hx]
    exact herror e hx

/-- Work that records nothing, and goes on with the registry as it was. -/
theorem Work.Leads.steady {x : Work W α} {f : α → Work W β} {scene : Scene W}
    {exits : Except Failure β × Scene W → Prop} (hx : x.Moves Scene.SameBooks)
    (hok : ∀ a later, scene.SameBooks later → (f a).Leads later exits)
    (herror : ∀ e later, scene.SameBooks later → exits (.error e, later)) : (x >>= f).Leads scene exits :=
  .bind (fun a _ => hok a _ (hx scene)) fun e _ => herror e _ (hx scene)

namespace Source

/-- The references that are selected from a range: none from one that is not read. -/
def selectionOf (source : Source W Rows Data) (live : LiveSettings) (resolved : Resolved) :
    Work W (List Reference) := do
  if resolved.range.caughtUp then return []
  let rows ← source.platform.read resolved.mode (live.basePath.getD "") resolved.range
  if ← source.platform.isEmpty rows then return []
  select source.channel source.platform source.predicate rows

/-- What a fetch begins with: its record, for which the checkpoint is written. -/
def opening (source : Source W Rows Data) (last limit : Json) : Work W String := do
  let lastText ← Work.ofExcept (last.writtenAs Json.literal)
  let limitText ← Work.ofExcept (limit.writtenAs Json.plainText)
  Work.log source.channel .debug
    ("Fetching next batch after " ++ lastText ++ " (source limit " ++ limitText ++ ")")
  return lastText

theorem fetch_eq_opening (source : Source W Rows Data) (live : LiveSettings) (last limit : Json) :
    source.fetch live last limit = (do
      let lastText ← source.opening last limit
      tryCatch
        (do let resolved ← source.resolve live last
            source.fetchRange live resolved)
        fun failure => do
          if failure.isReported then source.reportFailure lastText failure
          throw failure) := by
  unfold fetch opening
  simp only [bind_assoc, pure_bind]

theorem opening_moves {R : Scene W → Scene W → Prop} (hR : Scene.Course R) (source : Source W Rows Data)
    (last limit : Json) : (source.opening last limit).Moves R :=
  hR.bind (hR.ofExcept _) fun _ => hR.bind (hR.ofExcept _) fun _ => hR.bind (hR.log _ _ _) fun _ => hR.pure _

/-- A fetch begins where the checkpoint and the limit can be written. -/
theorem opening_runIn (source : Source W Rows Data) (last limit : Json) (scene : Scene W) :
    ((source.opening last limit).runIn scene).1 =
      if last.isWritable && limit.isWritable then .ok (Json.literal last) else .error .integerTooLong := by
  unfold opening
  cases hlast : last.isWritable with
  | false =>
    rw [Json.writtenAs_of_not_isWritable hlast]
    rfl
  | true =>
    rw [Json.writtenAs_of_isWritable hlast]
    cases hlimit : limit.isWritable with
    | false =>
      rw [Json.writtenAs_of_not_isWritable hlimit]
      rfl
    | true =>
      rw [Json.writtenAs_of_isWritable hlimit]
      rfl

/-- A fetch as far as it selects references. -/
def selection (source : Source W Rows Data) (live : LiveSettings) (last limit : Json) :
    Work W (List Reference) := do
  let _ ← source.opening last limit
  let resolved ← source.resolve live last
  source.selectionOf live resolved

end Source

/-- The number of references, if there are any. -/
def numberOf : Except Failure (List Reference) → Nat
  | .ok refs => refs.length
  | .error _ => 0

namespace Registry

/-- The survey of `n` references has been entered, if there were any. -/
inductive Surveyed (r : Registry) : Nat → Registry → Prop
  | nothing : Surveyed r 0 r
  | found {n : Nat} {found : Survey} (hbalance : found.paths.length + found.dropped.total = n)
      (hrecord : (recordSurvey n found r).2 = .ok ()) : Surveyed r n (recordSurvey n found r).1

/-- What comes of a fetch that has an outcome, and the registry then. -/
def closed (r : Registry) (outcome : Outcome) (seconds : Float) (basePath : String) (resolved : Resolved)
    (data : Option Data) : Except Failure (Batch Data) × Registry :=
  let after := r.close outcome seconds basePath resolved.range.upper
  (after.2.map fun _ => ⟨data, resolved.token⟩, after.1)

/-- What a fetch that selects `n` references comes to, and the registry then, before a failure is reported. -/
inductive Enters (basePath : Option String) (seconds : Float) (r : Registry) (n : Nat) :
    Except Failure (Batch Data) × Registry → Prop
  | unrecorded {found : Survey} {e : Failure} (hbalance : found.paths.length + found.dropped.total = n)
      (hrecord : (recordSurvey n found r).2 = .error e) :
      Enters basePath seconds r n (.error e, (recordSurvey n found r).1)
  | stopped {after : Registry} (hs : r.Surveyed n after) (e : Failure) :
      Enters basePath seconds r n (.error e, after)
  | ended {after : Registry} {path : String} {outcome : Outcome} {resolved : Resolved} {data : Option Data}
      (hs : r.Surveyed n after) (hpath : basePath = some path)
      (htoken : format resolved.range.upper = .ok resolved.token) (houtcome : outcome ≠ .failed)
      (hdata : data.isSome = true ↔ outcome = .loaded) :
      Enters basePath seconds r n (after.closed outcome seconds path resolved data)

/-- The registry after a fetch: a failure that is reported is counted. -/
def settled (r : Registry) (seconds : Float) : Except Failure (Batch Data) → Registry
  | .ok _ => r
  | .error e => if e.isReported then r.recordBatch Outcome.failed.name seconds else r

end Registry

namespace Source

/-- What has come of a fetch that began with this registry. -/
def Posted (r : Registry) (basePath : Option String) (seconds : Float) (n : Nat)
    (exit : Except Failure (Batch Data) × Scene W) : Prop :=
  r.Enters basePath seconds n (exit.1, exit.2.registry) ∧ exit.2.elapsed = seconds

/-- From each scene with this registry the work comes to what a fetch may come to that selects the references which
the choice gives there. -/
def Posts (r : Registry) (basePath : Option String) (seconds : Float) (work : Work W (Batch Data))
    (choice : Work W (List Reference)) : Prop :=
  ∀ scene : Scene W, scene.registry = r → scene.elapsed = seconds →
    work.Leads scene (Posted r basePath seconds (numberOf (choice.runIn scene).1))

/-- The work and the choice begin alike. -/
theorem Posts.bind {r : Registry} {basePath : Option String} {seconds : Float} {x : Work W α}
    {f : α → Work W (Batch Data)} {g : α → Work W (List Reference)} (hx : x.Moves Scene.SameBooks)
    (h : ∀ a scene, (x.runIn scene).1 = .ok a → Posts r basePath seconds (f a) (g a)) :
    Posts r basePath seconds (x >>= f) (x >>= g) := by
  rintro scene rfl rfl
  obtain ⟨hregistry, helapsed⟩ := hx scene
  refine Work.Leads.bind (fun a ha => ?_) fun e he => ?_
  · rw [Work.runIn_bind_ok ha]
    exact h a scene ha _ hregistry helapsed
  · rw [Work.runIn_bind_error he]
    exact ⟨.stopped (hregistry ▸ .nothing) e, helapsed⟩

/-- The choice is the first thing that is done. -/
theorem Posts.choose {r : Registry} {basePath : Option String} {seconds : Float} {x : Work W (List Reference)}
    {f : List Reference → Work W (Batch Data)} (hx : x.Moves Scene.SameBooks)
    (h : ∀ refs, Posts r basePath seconds (f refs) (pure refs)) : Posts r basePath seconds (x >>= f) x := by
  have hbind := Posts.bind hx fun refs _ _ => h refs
  rwa [bind_pure] at hbind

variable {source : Source W Rows Data} {live : LiveSettings} {resolved : Resolved} {path : String}
  (hmetered : source.metered = true)
include hmetered

theorem meter_runIn (f : Registry → Registry × Except Failure Unit) (scene : Scene W) :
    (source.meter f).runIn scene = ((f scene.registry).2, { scene with registry := (f scene.registry).1 }) := by
  unfold meter
  rw [hmetered]
  rfl

theorem count_runIn (outcome : Outcome) (scene : Scene W) :
    (source.count outcome).runIn scene =
      (.ok (), { scene with registry := scene.registry.recordBatch outcome.name scene.elapsed }) := by
  unfold count
  rw [Work.runIn_bind_ok rfl, meter_runIn hmetered]
  rfl

section Resolved

variable (hpath : live.basePath = some path) (htoken : format resolved.range.upper = .ok resolved.token)
include hpath htoken

theorem finish_posts {r : Registry} {n : Nat} {seconds : Float} {outcome : Outcome} {data : Option Data}
    (houtcome : outcome ≠ .failed) (hdata : data.isSome = true ↔ outcome = .loaded) {scene : Scene W}
    (hs : r.Surveyed n scene.registry) (hseconds : scene.elapsed = seconds) :
    (source.finish live outcome resolved data).Leads scene (Posted r live.basePath seconds n) := by
  subst hseconds
  have hended : r.Enters live.basePath scene.elapsed n _ := .ended hs hpath htoken houtcome hdata
  have hnote := meter_runIn hmetered (fun r => r.recordVersion path (.whole resolved.range.upper))
    { scene with registry := scene.registry.recordBatch outcome.name scene.elapsed }
  unfold finish Work.Leads
  rw [hpath, Option.getD_some, Work.runIn_bind_ok (congrArg Prod.fst (count_runIn hmetered outcome scene)),
    count_runIn hmetered]
  unfold Registry.closed Registry.close at hended
  dsimp only at hnote hended ⊢
  generalize (scene.registry.recordBatch outcome.name scene.elapsed).recordVersion path
    (.whole resolved.range.upper) = noted at hnote hended ⊢
  obtain ⟨after, result⟩ := noted
  -- The outcome is counted either way; a version that is not accepted is what the fetch then fails with.
  cases result with
  | error e =>
    rw [Work.runIn_bind_error (congrArg Prod.fst hnote), hnote]
    exact ⟨hpath ▸ hended, rfl⟩
  | ok _ =>
    rw [Work.runIn_bind_ok (congrArg Prod.fst hnote), hnote]
    exact ⟨hpath ▸ hended, rfl⟩

variable (hp : source.platform.Moves Scene.SameBooks)
include hp

/-- The stages of a fetch whose survey has been entered. -/
theorem load_posts {r : Registry} {n : Nat} {scene : Scene W} (hs : r.Surveyed n scene.registry)
    (message : String) (paths : List String) :
    (do
      Work.log source.channel .info message
      if paths.isEmpty then return ← source.finish live .noExistingFiles resolved none
      let data ← Dataset.assemble source.platform source.channel live paths
      source.finish live .loaded resolved (some data) : Work W (Batch Data)).Leads scene
      (Posted r live.basePath scene.elapsed n) := by
  have hbooks := Scene.course_sameBooks (W := W)
  have hstopped (e : Failure) {later : Scene W} (h : scene.SameBooks later) :
      Posted r live.basePath scene.elapsed n ((.error e, later) : Except Failure (Batch Data) × Scene W) :=
    ⟨.stopped (h.1 ▸ hs) e, h.2⟩
  refine .steady (hbooks.log _ _ _) (fun _ later hlater => ?_) fun e later hlater => hstopped e hlater
  split
  next => exact finish_posts hmetered hpath htoken (by decide) (by simp) (hlater.1 ▸ hs) hlater.2
  next =>
    refine .steady (hp.assemble hbooks _ _ _) (fun data last hlast => ?_) fun e last hlast =>
      hstopped e (hbooks.trans hlater hlast)
    have hend := hbooks.trans hlater hlast
    exact finish_posts hmetered hpath htoken (by decide) (by simp) (hend.1 ▸ hs) hend.2

/-- The stages of a fetch that has references. -/
theorem survey_posts (refs : List Reference) (scene : Scene W) :
    (do
      let found ← survey source.platform source.surveyor refs
      source.meter fun r => r.recordFiles (.whole refs.length) (.whole found.paths.length)
      source.meter fun r => r.recordDropped (found.dropped.counts.map fun (reason, n) => (reason, .whole n))
      Work.log source.channel .info ("Extracted distinct files " ++ toString refs.length ++
        " subset of files that exist " ++ toString found.paths.length ++ " and some samples " ++
        sampleText found.paths)
      if found.paths.isEmpty then return ← source.finish live .noExistingFiles resolved none
      let data ← Dataset.assemble source.platform source.channel live found.paths
      source.finish live .loaded resolved (some data) : Work W (Batch Data)).Leads scene
      (Posted scene.registry live.basePath scene.elapsed refs.length) := by
  have hbooks := Scene.course_sameBooks (W := W)
  refine Work.Leads.bind (fun found hfound => ?_) fun e he => nomatch he
  have hbalance : found.paths.length + found.dropped.total = refs.length := by
    cases hfound
    exact source.surveyor.survey_balance _ refs
  obtain ⟨hregistry, helapsed⟩ := hp.survey hbooks source.surveyor refs scene
  generalize ((survey source.platform source.surveyor refs).runIn scene).2 = surveyed at hregistry helapsed ⊢
  -- The two recordings stand next to each other, so nothing can fail between them but the first of them.
  rw [← hregistry, ← helapsed, meter_then, ← Registry.recordSurvey]
  refine Work.Leads.bind (fun _ hrecord => ?_) fun e hrecord => ?_
  · rw [meter_runIn hmetered] at hrecord ⊢
    dsimp only at hrecord ⊢
    have hs := Registry.Surveyed.found hbalance hrecord
    generalize (Registry.recordSurvey refs.length found surveyed.registry).1 = after at hs ⊢
    exact load_posts hmetered hpath htoken hp hs _ _
  · rw [meter_runIn hmetered] at hrecord ⊢
    dsimp only at hrecord ⊢
    refine ⟨?_, rfl⟩
    dsimp only
    exact .unrecorded hbalance hrecord

theorem fetchRange_posts (r : Registry) (seconds : Float) :
    Posts r live.basePath seconds (source.fetchRange live resolved) (source.selectionOf live resolved) := by
  have hbooks := Scene.course_sameBooks (W := W)
  have hfinish {outcome : Outcome} (houtcome : outcome ≠ .failed ∧ outcome ≠ .loaded) {scene : Scene W}
      (hregistry : scene.registry = r) (helapsed : scene.elapsed = seconds) :
      (source.finish live outcome resolved none).Leads scene (Posted r live.basePath seconds 0) :=
    finish_posts hmetered hpath htoken houtcome.1 (by simp [houtcome.2]) (hregistry ▸ .nothing) helapsed
  have hidle {outcome : Outcome} (houtcome : outcome ≠ .failed ∧ outcome ≠ .loaded)
      (message : Except Failure String) (level : Level) :
      Posts r live.basePath seconds
        (do Work.tell source.channel level message; return ← source.finish live outcome resolved none)
        (pure []) := by
    intro scene hregistry helapsed
    refine .steady (hbooks.tell _ _ _) (fun _ later hlater => ?_) fun e later hlater => ?_
    · exact hfinish houtcome (hlater.1.trans hregistry) (hlater.2.trans helapsed)
    · exact ⟨.stopped (hlater.1.trans hregistry ▸ .nothing) e, hlater.2.trans helapsed⟩
  -- Both go the same way up to the selection, and where the range is not read nothing is selected.
  unfold fetchRange selectionOf
  dsimp only
  by_cases hcaught : resolved.range.caughtUp = true
  · rw [if_pos hcaught, if_pos hcaught]
    exact hidle (by decide) _ _
  rw [if_neg hcaught, if_neg hcaught]
  refine Posts.bind (hp.read _ _ _) fun rows _ _ => Posts.bind (hp.isEmpty rows) fun empty _ _ => ?_
  by_cases hempty : empty = true
  · rw [if_pos hempty, if_pos hempty]
    exact hidle (by decide) _ _
  rw [if_neg hempty, if_neg hempty]
  refine Posts.choose (hp.select hbooks _ _ _) fun refs => ?_
  rintro scene rfl rfl
  by_cases hrefs : refs.isEmpty = true
  · rw [if_pos hrefs, List.isEmpty_iff.mp hrefs]
    exact hfinish (by decide) rfl rfl
  rw [if_neg hrefs]
  exact survey_posts hmetered hpath htoken hp refs scene

end Resolved

theorem reporting_settles (last : String) (e : Failure) (scene : Scene W) :
    let report : Work W (Batch Data) := do
      if e.isReported then source.reportFailure last e
      throw e
    (report.runIn scene).1 = .error e ∧
      (report.runIn scene).2.registry = scene.registry.settled scene.elapsed (report.runIn scene).1 := by
  have hreport : ((source.reportFailure last e).runIn scene).1 = .ok () ∧
      ((source.reportFailure last e).runIn scene).2.registry =
        scene.registry.recordBatch Outcome.failed.name scene.elapsed := by
    have hcount := count_runIn hmetered .failed scene
    unfold reportFailure
    rw [Work.runIn_bind_ok (congrArg Prod.fst hcount), hcount]
    exact ⟨rfl, rfl⟩
  dsimp only
  by_cases hreported : e.isReported = true
  · rw [if_pos hreported, Work.runIn_bind_ok hreport.1]
    refine ⟨rfl, hreport.2.trans ?_⟩
    exact (if_pos hreported).symm
  · rw [if_neg hreported]
    exact ⟨rfl, (if_neg hreported).symm⟩

/-- What a fetch comes to, and the registry then: a failure that is reported is counted there. -/
theorem fetch_enters (hp : source.platform.Moves Scene.SameBooks) (last limit : Json) (scene : Scene W) :
    ∃ before : Registry,
      scene.registry.Enters live.basePath scene.elapsed
        (numberOf ((source.selection live last limit).runIn scene).1)
        (((source.fetch live last limit).runIn scene).1, before) ∧
      ((source.fetch live last limit).runIn scene).2.registry =
        before.settled scene.elapsed ((source.fetch live last limit).runIn scene).1 := by
  have hbooks := Scene.course_sameBooks (W := W)
  have hstages : Posts scene.registry live.basePath scene.elapsed
      (do let resolved ← source.resolve live last; source.fetchRange live resolved)
      (do let resolved ← source.resolve live last; source.selectionOf live resolved) := by
    refine Posts.bind (hp.resolve hbooks _ _ _) fun resolved before hresolved => ?_
    obtain ⟨⟨path, hpath⟩, htoken⟩ := resolve_eq_ok hresolved
    exact fetchRange_posts hmetered hpath htoken hp _ _
  have hopens := opening_moves hbooks source last limit scene
  have hopened := opening_runIn source last limit scene
  rw [fetch_eq_opening]
  unfold selection
  by_cases hwritable : (last.isWritable && limit.isWritable) = true
  swap
  · rw [if_neg hwritable] at hopened
    rw [Work.runIn_bind_error hopened, Work.runIn_bind_error hopened]
    exact ⟨_, .stopped .nothing _, hopens.1⟩
  rw [if_pos hwritable] at hopened
  rw [Work.runIn_bind_ok hopened, Work.runIn_bind_ok hopened]
  generalize ((source.opening last limit).runIn scene).2 = opened at hopens ⊢
  obtain ⟨hentered, helapsed⟩ := hstages opened hopens.1 hopens.2
  generalize (do let resolved ← source.resolve live last; source.fetchRange live resolved : Work W (Batch Data)) =
    stages at hentered helapsed ⊢
  cases hresult : (stages.runIn opened).1 with
  | ok batch =>
    rw [Work.runIn_catch_ok hresult]
    rw [hresult] at hentered
    exact ⟨_, hentered, rfl⟩
  | error e =>
    rw [Work.runIn_catch_error hresult]
    rw [hresult] at hentered
    obtain ⟨herror, hregistry⟩ := reporting_settles hmetered (Json.literal last) e (stages.runIn opened).2
    rw [helapsed] at hregistry
    rw [herror] at hregistry ⊢
    exact ⟨_, hentered, hregistry⟩

end Source
end ObjectIntake
