import Mathlib.Algebra.Order.BigOperators.Group.List
import Mathlib.Algebra.Order.Group.Nat
import ObjectIntake.Proofs.Dataset.Preparation
import ObjectIntake.Proofs.Fetch.Bookkeeping

/-!
What the figure of loaded paths counts. The paths that a fetch keeps are counted before the batch is prepared, and
the loader is called after that. So the figure counts the paths that were handed to the loader, and besides those that
were withheld because their batch was refused.
-/
namespace ObjectIntake
open Numeral Settings Event ObjectPath Checkpoint

variable {W Rows Data α β : Type}

/-- The platform with a loader that refuses everything. -/
def Platform.withoutLoader (p : Platform W Rows Data) : Platform W Rows Data :=
  { p with load := fun _ _ _ => throw .noPaths }

/-- The world tells what was handed to the loader: a call of it adds its paths, whether it succeeds or not, and no
other call on the platform adds any. -/
structure Platform.Hands (p : Platform W Rows Data) (handed : W → List (List String)) : Prop where
  loads : ∀ fileFormat options paths scene,
    handed ((p.load fileFormat options paths).runIn scene).2.world = handed scene.world ++ [paths]
  others : p.withoutLoader.Moves fun before after => handed after.world = handed before.world

theorem Memory.probing_hands (answers : Probe → String → Presence) : (probing answers).Hands Site.loaded where
  loads _ _ _ _ := rfl
  others :=
    { versions := fun _ _ => rfl
      read := fun _ _ _ _ => rfl
      isEmpty := fun _ _ => rfl
      references := fun _ _ _ => rfl
      noteProbes := fun _ _ => rfl
      load := fun _ _ _ _ => rfl
      derive := fun _ _ _ => rfl }

/-- The figure of loaded paths is this number, and these paths have been handed to the loader. -/
structure Scene.Tells (handed : W → List (List String)) (n : Nat) (lists : List (List String)) (scene : Scene W) :
    Prop where
  loaded : scene.registry.loaded = .whole n
  handed : handed scene.world = lists

/-- Nothing is counted as loaded, and nothing is handed to the loader. -/
def Scene.SameTally (handed : W → List (List String)) (before after : Scene W) : Prop :=
  after.registry.loaded = before.registry.loaded ∧ handed after.world = handed before.world

section Tally

variable {handed : W → List (List String)} {n : Nat} {lists : List (List String)} {scene : Scene W}

theorem Scene.course_sameTally : Scene.Course (Scene.SameTally handed) where
  writes _ _ := ⟨rfl, rfl⟩
  trans hab hbc := ⟨hbc.1.trans hab.1, hbc.2.trans hab.2⟩

theorem Scene.Tells.same {after : Scene W} (h : scene.Tells handed n lists) (hsame : scene.SameTally handed after) :
    after.Tells handed n lists := ⟨hsame.1.trans h.loaded, hsame.2.trans h.handed⟩

theorem Scene.Tells.recorded {after : Registry} {m : Nat} (h : scene.Tells handed n lists)
    (hloaded : after.loaded = .whole m) : Scene.Tells handed m lists { scene with registry := after } :=
  ⟨hloaded, h.handed⟩

/-- What keeps the books and hands nothing to the loader keeps the tally. -/
theorem Platform.Hands.sameTally {p : Platform W Rows Data} (hhands : p.Hands handed)
    (hp : p.Moves Scene.SameBooks) : p.withoutLoader.Moves (Scene.SameTally handed) where
  versions basePath scene := ⟨congrArg _ (hp.versions basePath scene).1, hhands.others.versions basePath scene⟩
  read mode basePath range scene :=
    ⟨congrArg _ (hp.read mode basePath range scene).1, hhands.others.read mode basePath range scene⟩
  isEmpty rows scene := ⟨congrArg _ (hp.isEmpty rows scene).1, hhands.others.isEmpty rows scene⟩
  references predicate rows scene :=
    ⟨congrArg _ (hp.references predicate rows scene).1, hhands.others.references predicate rows scene⟩
  noteProbes paths scene := ⟨rfl, hhands.others.noteProbes paths scene⟩
  load _ _ _ _ := ⟨rfl, rfl⟩
  derive column data scene := ⟨congrArg _ (hp.derive column data scene).1, hhands.others.derive column data scene⟩

end Tally

namespace Registry

theorem loaded_recordBatch (r : Registry) (outcome : String) (seconds : Float) :
    (r.recordBatch outcome seconds).loaded = r.loaded := by
  simp only [recordBatch, countBatch]

theorem loaded_recordVersion (r : Registry) (basePath : String) (version : Figure) :
    (r.recordVersion basePath version).1.loaded = r.loaded := by
  unfold recordVersion
  split
  next => rfl
  next => rfl

theorem loaded_recordDropped (r : Registry) {counts : List (String × Nat)} (hcounts : ∀ c ∈ counts, c.2 ≠ 0) :
    (r.recordDropped (counts.map fun (reason, n) => (reason, .whole n))).1.loaded = r.loaded := by
  induction counts generalizing r with
  | nil => rfl
  | cons c rest ih =>
    obtain ⟨reason, n⟩ := c
    have hrest := fun r => ih r fun c hc => hcounts c (List.mem_cons_of_mem _ hc)
    have hboth := congrFun (recordDropped_cons reason (hcounts _ (List.mem_cons_self ..))
      (rest.map fun (reason, n) => (reason, Figure.whole n))) r
    rw [List.map_cons, hboth]
    cases hone : (countDropped reason (.whole n) r).2 with
    | ok _ =>
      rw [both_of_ok hone, hrest]
      simp only [countDropped]
    | error e =>
      rw [both_of_error hone]
      simp only [countDropped]

theorem loaded_recordFiles {r : Registry} {m extracted loaded : Nat} (h : r.loaded = .whole m)
    (hfits : m + loaded < twoTo 53) (hok : (r.recordFiles (.whole extracted) (.whole loaded)).2 = .ok ()) :
    (r.recordFiles (.whole extracted) (.whole loaded)).1.loaded = .whole (m + loaded : Nat) := by
  have hloaded := increase_exact hfits
  unfold recordFiles countExtracted at hok ⊢
  cases hextracted : increase r.extracted (.whole extracted) with
  | error e =>
    rw [hextracted] at hok
    cases hok
  | ok total =>
    dsimp only
    unfold countLoaded
    dsimp only
    rw [h, hloaded]

/-- A survey whose figures are exact is recorded, and its paths are counted. -/
theorem loaded_recordSurvey {r : Registry} {m n : Nat} {found : Survey} (h : r.loaded = .whole m)
    (hfound : found.paths.length + found.dropped.total = n) (hfits : m + n < twoTo 53) :
    (recordSurvey n found r).2 = .ok () ∧
      (recordSurvey n found r).1.loaded = .whole (m + found.paths.length : Nat) := by
  have hdropped : ∀ c ∈ found.dropped.counts, c.2 ≤ found.dropped.total := by
    intro c hc
    rw [← Dropped.sum_counts]
    exact List.le_sum_of_mem (List.mem_map_of_mem hc)
  have hexact : ∀ k ∈ surveyFigures n found, k.natAbs < twoTo 53 := by
    intro k hk
    rcases List.mem_append.mp hk with hk | hk
    · rcases List.mem_pair.mp hk with rfl | rfl <;> omega
    · obtain ⟨c, hc, rfl⟩ := List.mem_map.mp hk
      have := hdropped c hc
      omega
  have hnone : ¬ ∃ k ∈ surveyFigures n found, Figure.Overflows k := by
    rintro ⟨k, hk, hover⟩
    exact Figure.not_overflows_of_natAbs_lt (hexact k hk) hover
  have hfiles : (r.recordFiles (.whole n) (.whole found.paths.length)).2 = .ok () := by
    refine (accounts_recordFiles n found.paths.length).accepted ?_ r
    rintro ⟨k, hk, hover⟩
    exact hnone ⟨k, List.mem_append_left _ hk, hover⟩
  have hcounts : ∀ c ∈ found.dropped.counts, c.2 ≠ 0 := fun c hc => (Dropped.mem_counts.mp hc).1
  refine ⟨(accounts_recordSurvey n found).accepted hnone r, ?_⟩
  rw [recordSurvey, both_of_ok (f := fun r => r.recordFiles _ _) hfiles, loaded_recordDropped _ hcounts]
  exact loaded_recordFiles h (by omega) hfiles

end Registry

section Loading

variable {handed : W → List (List String)} {n : Nat} {lists : List (List String)} {scene : Scene W}

/-- Loading a batch hands its paths to the loader, unless it is refused before. -/
theorem Dataset.assemble_tells {p : Platform W Rows Data} (hhands : p.Hands handed) (hp : p.Moves Scene.SameBooks)
    (channel : String) (s : LiveSettings) {paths : List String} (hpaths : paths ≠ [])
    (h : scene.Tells handed n lists) :
    ((assemble p channel s paths).runIn scene).2.Tells handed n
      (lists ++ handedOf (p.depth scene.world) s paths) := by
  have hlater := h.same (preparation_moves Scene.course_sameTally p channel s paths scene)
  have hresult := (preparation_gives p channel s paths scene.world scene rfl).1
  rw [assemble_eq, handedOf, if_neg hpaths]
  cases hprepared : prepared (p.depth scene.world) s paths with
  | error e =>
    rw [hprepared] at hresult
    rw [Work.runIn_bind_error hresult, List.append_nil]
    exact hlater
  | ok settled =>
    rw [hprepared] at hresult
    rw [Work.runIn_bind_ok hresult]
    obtain ⟨options, column⟩ := settled
    generalize ((preparation p channel s paths).runIn scene).2 = later at hlater ⊢
    have hloaded : ((p.load s.fileFormat options paths).runIn later).2.Tells handed n (lists ++ [paths]) :=
      { loaded := (congrArg Registry.loaded (hp.load s.fileFormat options paths later).1).trans hlater.loaded
        handed := by rw [hhands.loads, hlater.handed] }
    dsimp only
    cases hload : ((p.load s.fileFormat options paths).runIn later).1 with
    | error e =>
      rw [Work.runIn_bind_error hload]
      exact hloaded
    | ok data =>
      rw [Work.runIn_bind_ok hload]
      cases column with
      | none => exact hloaded
      | some column => exact hloaded.same ((hhands.sameTally hp).derive column data _)

end Loading

/-- The paths that are kept, and how deep the options for the loader may nest values then. -/
structure Kept where
  paths : List String := []
  depth : Nat := 0
  deriving DecidableEq

/-- What is kept, if it comes so far. -/
def keptOf : Except Failure Kept → Kept
  | .ok kept => kept
  | .error _ => {}

/-- What is handed to the loader of what is kept. -/
def Kept.handed (kept : Kept) (live : LiveSettings) : List (List String) :=
  Dataset.handedOf kept.depth live kept.paths

/-- What is withheld of what is kept. -/
def Kept.withheld (kept : Kept) (live : LiveSettings) : List (List String) :=
  Dataset.withheldOf kept.depth live kept.paths

namespace Source

/-- The paths that are kept for the references of a choice. -/
def keeping (source : Source W Rows Data) (choice : Work W (List Reference)) : Work W Kept := do
  let refs ← choice
  let found ← survey source.platform source.surveyor refs
  return ⟨found.paths, source.platform.depth (← Work.world)⟩

/-- The paths that a fetch keeps. -/
def keeps (source : Source W Rows Data) (live : LiveSettings) (last limit : Json) (scene : Scene W) : Kept :=
  keptOf ((source.keeping (source.selection live last limit)).runIn scene).1

/-- No more paths are kept than there are references. -/
theorem length_keptOf_le (source : Source W Rows Data) (choice : Work W (List Reference)) (scene : Scene W) :
    (keptOf ((source.keeping choice).runIn scene).1).paths.length ≤ numberOf (choice.runIn scene).1 := by
  unfold keeping
  cases hchoice : (choice.runIn scene).1 with
  | error e =>
    rw [Work.runIn_bind_error hchoice]
    exact Nat.le_refl 0
  | ok refs =>
    have hbalance := source.surveyor.survey_balance (source.platform.presence (choice.runIn scene).2.world) refs
    rw [Work.runIn_bind_ok hchoice]
    exact Nat.le_of_add_right_le (Nat.le_of_eq hbalance)

/-- From each scene with this tally the work counts the paths that are kept for the references of the choice, and hands
them to the loader unless the batch is refused before. -/
def Tallies (source : Source W Rows Data) (handed : W → List (List String)) (n : Nat) (lists : List (List String))
    (live : LiveSettings) (work : Work W (Batch Data)) (choice : Work W (List Reference)) : Prop :=
  ∀ scene : Scene W, scene.Tells handed n lists → n + numberOf (choice.runIn scene).1 < twoTo 53 →
    (work.runIn scene).2.Tells handed (n + (keptOf ((source.keeping choice).runIn scene).1).paths.length)
      (lists ++ (keptOf ((source.keeping choice).runIn scene).1).handed live)

section Tallies

variable {source : Source W Rows Data} {handed : W → List (List String)} {n : Nat} {lists : List (List String)}
  {live : LiveSettings}

/-- The work and the choice begin alike. -/
theorem Tallies.bind {x : Work W α} {f : α → Work W (Batch Data)} {g : α → Work W (List Reference)}
    (hx : x.Moves (Scene.SameTally handed)) (h : ∀ a, source.Tallies handed n lists live (f a) (g a)) :
    source.Tallies handed n lists live (x >>= f) (x >>= g) := by
  intro scene hscene hfits
  have hlater := hscene.same (hx scene)
  have hkeeping : source.keeping (x >>= g) = x >>= fun a => source.keeping (g a) := bind_assoc ..
  rw [hkeeping]
  cases hresult : (x.runIn scene).1 with
  | ok a =>
    rw [Work.runIn_bind_ok hresult] at hfits
    rw [Work.runIn_bind_ok hresult, Work.runIn_bind_ok hresult]
    exact h a _ hlater hfits
  | error e =>
    rw [Work.runIn_bind_error hresult, Work.runIn_bind_error hresult]
    simpa [keptOf, Kept.handed, Dataset.handedOf] using hlater

/-- The choice is the first thing that is done. -/
theorem Tallies.choose {x : Work W (List Reference)} {f : List Reference → Work W (Batch Data)}
    (hx : x.Moves (Scene.SameTally handed)) (h : ∀ refs, source.Tallies handed n lists live (f refs) (pure refs)) :
    source.Tallies handed n lists live (x >>= f) x := by
  have hbind := Tallies.bind hx h
  rwa [bind_pure] at hbind

/-- Nothing is chosen, and nothing is counted or handed to the loader. -/
theorem Tallies.idle {work : Work W (Batch Data)} (h : work.Moves (Scene.SameTally handed)) :
    source.Tallies handed n lists live work (pure []) := by
  intro scene hscene _
  have hnone : (keptOf ((source.keeping (pure [])).runIn scene).1).paths = [] := rfl
  rw [Kept.handed, hnone]
  simpa [Dataset.handedOf] using hscene.same (h scene)

theorem meter_sameTally {f : Registry → Registry × Except Failure Unit} (hf : ∀ r, (f r).1.loaded = r.loaded) :
    (source.meter f).Moves (Scene.SameTally handed) := by
  unfold meter
  split
  next => exact fun scene => ⟨hf scene.registry, rfl⟩
  next => exact Scene.course_sameTally.pure ()

theorem count_sameTally (outcome : Outcome) : (source.count outcome).Moves (Scene.SameTally handed) :=
  Scene.course_sameTally.bind Scene.course_sameTally.elapsed fun seconds =>
    meter_sameTally fun r => r.loaded_recordBatch outcome.name seconds

theorem finish_sameTally (outcome : Outcome) (resolved : Resolved) (data : Option Data) :
    (source.finish live outcome resolved data).Moves (Scene.SameTally handed) := by
  have hcourse : Scene.Course (Scene.SameTally handed) := Scene.course_sameTally
  refine hcourse.bind (count_sameTally outcome) fun _ => hcourse.bind ?_ fun _ =>
    hcourse.bind (hcourse.write _) fun _ => hcourse.pure _
  exact meter_sameTally fun r => r.loaded_recordVersion _ _

section Stages

variable (hmetered : source.metered = true) (hp : source.platform.Moves Scene.SameBooks)
  (hhands : source.platform.Hands handed)
include hmetered hp hhands

omit hmetered in
/-- The stages of a fetch whose paths have been counted. -/
theorem loading_tells {scene : Scene W} (hscene : scene.Tells handed n lists) (resolved : Resolved)
    (message : String) (paths : List String) :
    ((do
      Work.log source.channel .info message
      if paths.isEmpty then return ← source.finish live .noExistingFiles resolved none
      let data ← Dataset.assemble source.platform source.channel live paths
      source.finish live .loaded resolved (some data) : Work W (Batch Data)).runIn scene).2.Tells
        handed n (lists ++ Dataset.handedOf (source.platform.depth scene.world) live paths) := by
  have hsame : ((Work.log source.channel .info message : Work W Unit).runIn scene).2.world = scene.world := rfl
  have hlogged := hscene.same (Scene.course_sameTally.log source.channel .info message scene)
  rw [Work.runIn_bind_ok rfl]
  rw [← hsame]
  generalize ((Work.log source.channel .info message : Work W Unit).runIn scene).2 = logged at hlogged ⊢
  cases hpaths : paths with
  | nil =>
    simpa [Dataset.handedOf] using hlogged.same (finish_sameTally .noExistingFiles resolved none logged)
  | cons path rest =>
    have hne : path :: rest ≠ [] := List.cons_ne_nil _ _
    have hassembled := Dataset.assemble_tells hhands hp source.channel live hne hlogged
    rw [if_neg (by simp)]
    cases hresult : ((Dataset.assemble source.platform source.channel live (path :: rest)).runIn logged).1 with
    | error e =>
      rw [Work.runIn_bind_error hresult]
      exact hassembled
    | ok data =>
      rw [Work.runIn_bind_ok hresult]
      exact hassembled.same (finish_sameTally .loaded resolved (some data) _)

/-- The stages of a fetch that has references. -/
theorem survey_tallies (resolved : Resolved) (refs : List Reference) :
    source.Tallies handed n lists live
      (do
        let found ← survey source.platform source.surveyor refs
        source.meter fun r => r.recordFiles (.whole refs.length) (.whole found.paths.length)
        source.meter fun r => r.recordDropped (found.dropped.counts.map fun (reason, n) => (reason, .whole n))
        Work.log source.channel .info ("Extracted distinct files " ++ toString refs.length ++
          " subset of files that exist " ++ toString found.paths.length ++ " and some samples " ++
          sampleText found.paths)
        if found.paths.isEmpty then return ← source.finish live .noExistingFiles resolved none
        let data ← Dataset.assemble source.platform source.channel live found.paths
        source.finish live .loaded resolved (some data))
      (pure refs) := by
  intro scene hscene hfits
  have hcourse : Scene.Course (Scene.SameTally handed) := Scene.course_sameTally
  have hquiet := hhands.sameTally hp
  have hsurveyed := hscene.same (hquiet.survey hcourse source.surveyor refs scene)
  have hbalance := source.surveyor.survey_balance (source.platform.presence scene.world) refs
  have hresult : ((survey source.platform source.surveyor refs).runIn scene).1 =
      .ok (source.surveyor.survey (source.platform.presence scene.world) refs) := rfl
  have hkept : keptOf ((source.keeping (pure refs)).runIn scene).1 =
      ⟨(source.surveyor.survey (source.platform.presence scene.world) refs).paths,
        source.platform.depth ((survey source.platform source.surveyor refs).runIn scene).2.world⟩ := rfl
  have hnumber : numberOf ((pure refs : Work W (List Reference)).runIn scene).1 = refs.length := rfl
  rw [hnumber] at hfits
  rw [hkept, Work.runIn_bind_ok hresult]
  generalize source.surveyor.survey (source.platform.presence scene.world) refs = found at hbalance ⊢
  change Scene.Tells handed n lists ((survey source.platform source.surveyor refs).runIn scene).2 at hsurveyed
  generalize ((survey source.platform source.surveyor refs).runIn scene).2 = surveyed at hsurveyed ⊢
  -- Both recordings are accepted, for their figures are exact.
  obtain ⟨hok, hcounted⟩ := Registry.loaded_recordSurvey hsurveyed.loaded hbalance hfits
  have hrecorded := meter_runIn hmetered (Registry.recordSurvey refs.length found) surveyed
  have haccepted : ((source.meter (Registry.recordSurvey refs.length found)).runIn surveyed).1 = .ok () := by
    rw [hrecorded]
    dsimp only
    rw [hok]
  rw [meter_then, ← Registry.recordSurvey, Work.runIn_bind_ok haccepted, hrecorded]
  have hentered : Scene.Tells handed (n + found.paths.length) lists
      { surveyed with registry := (Registry.recordSurvey refs.length found surveyed.registry).1 } :=
    hsurveyed.recorded hcounted
  generalize (Registry.recordSurvey refs.length found surveyed.registry).1 = after at hentered ⊢
  exact loading_tells hp hhands hentered resolved _ found.paths

theorem fetchRange_tallies (resolved : Resolved) :
    source.Tallies handed n lists live (source.fetchRange live resolved) (source.selectionOf live resolved) := by
  have hcourse : Scene.Course (Scene.SameTally handed) := Scene.course_sameTally
  have hquiet := hhands.sameTally hp
  have hidle (outcome : Outcome) (message : Except Failure String) (level : Level) :
      source.Tallies handed n lists live
        (do Work.tell source.channel level message; return ← source.finish live outcome resolved none) (pure []) :=
    .idle (hcourse.bind (hcourse.tell _ _ _) fun _ => finish_sameTally outcome resolved none)
  -- Both go the same way up to the selection, and where the range is not read nothing is selected.
  unfold fetchRange selectionOf
  dsimp only
  by_cases hcaught : resolved.range.caughtUp = true
  · rw [if_pos hcaught, if_pos hcaught]
    exact hidle _ _ _
  rw [if_neg hcaught, if_neg hcaught]
  refine .bind (hquiet.read _ _ _) fun rows => .bind (hquiet.isEmpty rows) fun empty => ?_
  by_cases hempty : empty = true
  · rw [if_pos hempty, if_pos hempty]
    exact hidle _ _ _
  rw [if_neg hempty, if_neg hempty]
  refine .choose (hquiet.select hcourse _ _ _) fun refs => ?_
  by_cases hrefs : refs.isEmpty = true
  · rw [if_pos hrefs, List.isEmpty_iff.mp hrefs]
    exact .idle (finish_sameTally _ _ _)
  rw [if_neg hrefs]
  exact survey_tallies hmetered hp hhands resolved refs

/-- A fetch counts the paths that it keeps, and hands them to the loader unless the batch is refused before. -/
theorem fetch_tells (last limit : Json) {scene : Scene W} (hscene : scene.Tells handed n lists)
    (hfits : n + numberOf ((source.selection live last limit).runIn scene).1 < twoTo 53) :
    ((source.fetch live last limit).runIn scene).2.Tells handed
      (n + (source.keeps live last limit scene).paths.length)
      (lists ++ (source.keeps live last limit scene).handed live) := by
  have hcourse : Scene.Course (Scene.SameTally handed) := Scene.course_sameTally
  have hstages : source.Tallies handed n lists live
      (do let resolved ← source.resolve live last; source.fetchRange live resolved)
      (do let resolved ← source.resolve live last; source.selectionOf live resolved) :=
    .bind ((hhands.sameTally hp).resolve hcourse source.channel live last)
      fun resolved => fetchRange_tallies hmetered hp hhands resolved
  have hreport (text : String) (e : Failure) : Work.Moves (Scene.SameTally handed) (do
      if e.isReported then source.reportFailure text e
      throw e : Work W (Batch Data)) :=
    Work.Moves.branch (hcourse.throw e) fun hthrow =>
      hcourse.bind (hcourse.bind (count_sameTally .failed) fun _ => hcourse.write _) fun _ => hthrow
  have htallies : source.Tallies handed n lists live (source.fetch live last limit)
      (source.selection live last limit) := by
    rw [fetch_eq_opening]
    unfold selection
    refine .bind (opening_moves hcourse source last limit) fun text scene hscene hfits => ?_
    have hafter := hstages scene hscene hfits
    generalize hstages : (do
      let resolved ← source.resolve live last
      source.fetchRange live resolved : Work W (Batch Data)) = stages at hafter ⊢
    cases hresult : (stages.runIn scene).1 with
    | ok batch =>
      rw [Work.runIn_catch_ok hresult]
      exact hafter
    | error e =>
      rw [Work.runIn_catch_error hresult]
      exact hafter.same (hreport text e _)
  exact htallies scene hscene hfits

end Stages
end Tallies
end Source

namespace Operator

variable (source : Source W Rows Data)

/-- What the fetches of a run withhold from the loader. -/
def withheld (o : Operator W Data) : List (Action W) → List (List String)
  | [] => []
  | .fetch last limit duration :: rest =>
      (source.keeps o.live last limit (o.opened duration)).withheld o.live ++
        (o.fetch source last limit duration).withheld rest
  | action :: rest => (o.step source action).withheld rest

/-- The figure counts the paths that were handed to the loader since the world was as given, and those that were
withheld; no more were counted than references were selected. -/
structure Tallied (o : Operator W Data) (handed : W → List (List String)) (base lists withheld : List (List String)) :
    Prop where
  tells : o.scene.Tells handed (Dataset.pathCount lists + Dataset.pathCount withheld) (base ++ lists)
  selected : Dataset.pathCount lists + Dataset.pathCount withheld ≤ (o.entries.map (·.selected)).sum

theorem entries_run (o : Operator W Data) (actions : List (Action W)) :
    ∃ more, (o.run source actions).entries = o.entries ++ more := by
  induction actions generalizing o with
  | nil => exact ⟨[], (List.append_nil _).symm⟩
  | cons action rest ih =>
    obtain ⟨first, hfirst⟩ := o.entries_step source action
    obtain ⟨later, hlater⟩ := ih (o.step source action)
    exact ⟨first ++ later, by rw [← List.append_assoc, ← hfirst]; exact hlater⟩

theorem selected_le_run (o : Operator W Data) (actions : List (Action W)) :
    (o.entries.map (·.selected)).sum ≤ ((o.run source actions).entries.map (·.selected)).sum := by
  obtain ⟨more, hmore⟩ := o.entries_run source actions
  rw [hmore, List.map_append, List.sum_append]
  exact Nat.le_add_right _ _

/-- What is withheld is never an empty batch. -/
theorem pathCount_withheld_eq_zero_iff (o : Operator W Data) (actions : List (Action W)) :
    Dataset.pathCount (o.withheld source actions) = 0 ↔ o.withheld source actions = [] := by
  constructor
  · induction actions generalizing o with
    | nil => exact fun _ => rfl
    | cons action rest ih =>
      cases action with
      | fetch last limit duration =>
        intro h
        rw [withheld, Dataset.pathCount_append, Nat.add_eq_zero_iff] at h
        rw [withheld, Kept.withheld, Dataset.pathCount_withheldOf_eq_zero h.1, ih _ h.2, List.append_nil]
      | change f => exact ih _
      | put field value => exact ih _
      | resolve last => exact ih _
  · intro h
    rw [h]
    rfl

variable {source} {handed : W → List (List String)} {base lists refused : List (List String)}

theorem tallied_start (live : LiveSettings) (scene : Scene W) :
    (start live scene : Operator W Data).Tallied handed (handed scene.world) [] [] :=
  ⟨⟨rfl, (List.append_nil _).symm⟩, Nat.le_refl 0⟩

section Steps

variable (hmetered : source.metered = true) (hp : source.platform.Moves Scene.SameBooks)
  (hhands : source.platform.Hands handed)
include hmetered hp hhands

theorem Tallied.fetch {o : Operator W Data} (h : o.Tallied handed base lists refused) (last limit : Json)
    (duration : Duration)
    (hfits : ((o.fetch source last limit duration).entries.map (·.selected)).sum < twoTo 53) :
    let kept := source.keeps o.live last limit (o.opened duration)
    (o.fetch source last limit duration).Tallied handed base (lists ++ kept.handed o.live)
      (refused ++ kept.withheld o.live) := by
  intro kept
  have hopened : (o.opened duration).Tells handed _ _ := ⟨h.tells.loaded, h.tells.handed⟩
  have hselected := h.selected
  have hentries : ((o.fetch source last limit duration).entries.map (·.selected)).sum =
      (o.entries.map (·.selected)).sum +
        numberOf ((source.selection o.live last limit).runIn (o.opened duration)).1 := by
    rw [Operator.fetch, List.map_append, List.sum_append, List.map_singleton, List.sum_singleton]
    rfl
  have hkept : kept.paths.length ≤ numberOf ((source.selection o.live last limit).runIn (o.opened duration)).1 :=
    source.length_keptOf_le _ _
  have hsplit : Dataset.pathCount (kept.handed o.live) + Dataset.pathCount (kept.withheld o.live) = kept.paths.length :=
    Dataset.pathCount_handedOf_withheldOf kept.depth o.live kept.paths
  have hroom : Dataset.pathCount lists + Dataset.pathCount refused +
      numberOf ((source.selection o.live last limit).runIn (o.opened duration)).1 < twoTo 53 := by omega
  have htells := source.fetch_tells hmetered hp hhands last limit hopened hroom
  constructor
  case tells =>
    have hcount : Dataset.pathCount (lists ++ kept.handed o.live) +
        Dataset.pathCount (refused ++ kept.withheld o.live) =
          Dataset.pathCount lists + Dataset.pathCount refused + kept.paths.length := by
      rw [Dataset.pathCount_append, Dataset.pathCount_append]
      omega
    rw [hcount, ← List.append_assoc]
    exact htells
  case selected =>
    rw [Dataset.pathCount_append, Dataset.pathCount_append, hentries]
    omega

/-- Whatever is done, the figure counts what was handed to the loader and what was withheld. -/
theorem Tallied.run {o : Operator W Data} (h : o.Tallied handed base lists refused) {actions : List (Action W)}
    (hchanges : ∀ f, .change f ∈ actions → ∀ w, handed (f w) = handed w)
    (hfits : ((o.run source actions).entries.map (·.selected)).sum < twoTo 53) :
    ∃ more, (o.run source actions).Tallied handed base (lists ++ more) (refused ++ o.withheld source actions) := by
  induction actions generalizing o lists refused with
  | nil =>
    refine ⟨[], ?_⟩
    rw [withheld, List.append_nil, List.append_nil]
    exact h
  | cons action rest ih =>
    have hrest : ∀ f, .change f ∈ rest → ∀ w, handed (f w) = handed w := fun f hf =>
      hchanges f (List.mem_cons_of_mem _ hf)
    cases action with
    | change f =>
      have hsame := hchanges f (List.mem_cons_self ..) o.scene.world
      exact ih ⟨⟨h.tells.loaded, hsame.trans h.tells.handed⟩, h.selected⟩ hrest hfits
    | put field value => exact ih ⟨h.tells, h.selected⟩ hrest hfits
    | resolve last =>
      have hsame := (hhands.sameTally hp).resolve Scene.course_sameTally source.channel o.live last o.scene
      exact ih ⟨h.tells.same hsame, h.selected⟩ hrest hfits
    | fetch last limit duration =>
      have hnext := h.fetch hmetered hp hhands last limit duration
        (Nat.lt_of_le_of_lt (selected_le_run source _ rest) hfits)
      obtain ⟨more, hmore⟩ := ih hnext hrest hfits
      rw [List.append_assoc, List.append_assoc] at hmore
      exact ⟨_, hmore⟩

end Steps

/-- Over every run of a source that records its fetches, the figure of loaded paths counts those that were handed to
the loader and those that were withheld from it. It is the number of paths handed over exactly where nothing was
withheld: no fetch kept paths whose options or whose partition column were then refused. -/
theorem loaded_figure_counts_kept (hmetered : source.metered = true) (hp : source.platform.Moves Scene.SameBooks)
    (hhands : source.platform.Hands handed) (live : LiveSettings) (scene : Scene W) (actions : List (Action W))
    (hchanges : ∀ f, .change f ∈ actions → ∀ w, handed (f w) = handed w)
    (hfits : (((start live scene).run source actions).entries.map (·.selected)).sum < twoTo 53) :
    let before : Operator W Data := start live scene
    let after := before.run source actions
    ∃ lists, handed after.scene.world = handed scene.world ++ lists ∧
      after.scene.registry.loaded =
        .whole (Dataset.pathCount lists + Dataset.pathCount (before.withheld source actions) : Nat) ∧
      (after.scene.registry.loaded = .whole (Dataset.pathCount lists) ↔ before.withheld source actions = []) := by
  obtain ⟨lists, htallied⟩ := (tallied_start live scene).run hmetered hp hhands hchanges hfits
  rw [List.nil_append, List.nil_append] at htallied
  refine ⟨lists, htallied.tells.handed, htallied.tells.loaded, ?_⟩
  rw [htallied.tells.loaded, Figure.whole.injEq, ← pathCount_withheld_eq_zero_iff]
  omega

/-- A source that reads everything, checks paths and records its fetches. -/
def recordingSource : Source Memory.Site (List Row) Dataset.Table where
  platform := Memory.probing Memory.Probe.presence
  predicate := Predicate.ofSettings Source.readingAll.toSourceSettings
  surveyor := ⟨"s3", true, 8, "source"⟩
  channel := "source"
  metered := true

def halfSecond : Duration := ⟨0.5, rfl⟩

/-- All is read once, and again after the options of the reader were spoiled, and again after the object was lost. -/
def spoiledRun : List (Action Memory.Site) :=
  [.fetch .null (.int 100) halfSecond, .put .readerOptions (.str "not json"), .fetch .null (.int 100) halfSecond,
    .change fun site => { site with probe := ⟨[], []⟩ }, .fetch .null (.int 100) halfSecond]

theorem loaded_figure_counts_kept_spoiledRun :
    let before : Operator Memory.Site _ := start Source.readingAll (Scene.start Source.oneRowSite)
    let after := before.run recordingSource spoiledRun
    Source.build (Memory.probing Memory.Probe.presence) true Source.readingAll "source" true = .ok recordingSource ∧
      after.scene.world.loaded = [["s3://landing/in/a.parquet"]] ∧
      before.withheld recordingSource spoiledRun = [["s3://landing/in/a.parquet"]] ∧
      after.scene.registry.loaded = .whole 2 ∧ after.scene.registry.loaded ≠ .whole 1 := by
  intro before after
  have hfits : (after.entries.map (·.selected)).sum < twoTo 53 := by decide +kernel
  have hchanges : ∀ f, .change f ∈ spoiledRun → ∀ site : Memory.Site, (f site).loaded = site.loaded := by
    simp [spoiledRun]
  obtain ⟨lists, hlists, hloaded, hiff⟩ := loaded_figure_counts_kept rfl (Memory.probing_moves _)
    (Memory.probing_hands _) Source.readingAll (Scene.start Source.oneRowSite) spoiledRun hchanges hfits
  have hworld : after.scene.world.loaded = [["s3://landing/in/a.parquet"]] := by decide +kernel
  have hwithheld : before.withheld recordingSource spoiledRun = [["s3://landing/in/a.parquet"]] := by decide +kernel
  obtain rfl : lists = [["s3://landing/in/a.parquet"]] := hlists.symm.trans hworld
  rw [hwithheld] at hloaded hiff
  exact ⟨rfl, hworld, hwithheld, hloaded, mt hiff.mp (List.cons_ne_nil _ _)⟩

/-- Settings with reader options that are not JSON. -/
def spoiledSettings : LiveSettings := Source.readingAll.put .readerOptions (.str "not json")

/-- Here a path is counted as loaded, and nothing was handed to the loader. -/
theorem refused_batch_counted :
    let before : Operator Memory.Site _ := start spoiledSettings (Scene.start Source.oneRowSite)
    let after := before.run recordingSource [.fetch .null (.int 100) halfSecond]
    after.scene.world.loaded = [] ∧ after.scene.registry.loaded = .whole 1 := by
  intro before after
  have hopened : (before.opened halfSecond).Tells Memory.Site.loaded 0 [] := ⟨rfl, rfl⟩
  have hfits : 0 + numberOf ((recordingSource.selection spoiledSettings .null (.int 100)).runIn
      (before.opened halfSecond)).1 < twoTo 53 := by decide +kernel
  have hkept : recordingSource.keeps spoiledSettings .null (.int 100) (before.opened halfSecond) =
      ⟨["s3://landing/in/a.parquet"], Json.usualDepth⟩ := by decide +kernel
  have htells := recordingSource.fetch_tells rfl (Memory.probing_moves _) (Memory.probing_hands _) .null (.int 100)
    hopened hfits
  rw [hkept] at htells
  exact ⟨htells.handed, htells.loaded⟩

end Operator
end ObjectIntake
