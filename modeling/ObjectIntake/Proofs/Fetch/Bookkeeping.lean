import ObjectIntake.Proofs.ChangeLog.Session
import ObjectIntake.Proofs.Fetch.Postings

/-!
The books of a source over a whole run. Fetches follow one another while the world and the settings change, and the
registry shows a ledger that accounts for every one of them.
-/
namespace ObjectIntake
open Numeral Settings Event ObjectPath Checkpoint

variable {W Rows Data : Type}

/-- An engine that holds the change log records nothing in the registry, as the change log in memory does not. -/
theorem Lakehouse.platform_sameBooks (commitColumn : String) :
    (Lakehouse.platform commitColumn).Moves Scene.SameBooks := by
  have hworking : Working Scene.SameBooks :=
    { toCourse := Scene.course_sameBooks
      calls := fun _ _ _ => ⟨rfl, rfl⟩
      notes := fun _ _ _ => ⟨rfl, rfl⟩ }
  exact hworking.platform commitColumn

/-- A fetch as its caller sees it: the base path configured, the number of references selected, and the result. -/
structure Entry (Data : Type) where
  basePath : Option String
  selected : Nat
  result : Except Failure (Batch Data)

namespace Entry

def raised (entry : Entry Data) : Bool :=
  match entry.result with
  | .ok _ => false
  | .error _ => true

def loads (entry : Entry Data) : Bool :=
  match entry.result with
  | .ok batch => batch.data.isSome
  | .error _ => false

def returnsNothing (entry : Entry Data) : Bool :=
  match entry.result with
  | .ok batch => batch.data.isNone
  | .error _ => false

def returnsOrReports (entry : Entry Data) : Bool :=
  match entry.result with
  | .ok _ => true
  | .error e => e.isReported

/-- The version from which the checkpoint handed out goes on. -/
def version? (entry : Entry Data) : Option Int :=
  match entry.result with
  | .ok batch => (startOf (normalize (.str batch.token))).toOption.join
  | .error _ => none

def versionAt (path : String) (entry : Entry Data) : Option Int :=
  if entry.basePath = some path then entry.version? else none

/-- A fetch that returns does so for a base path, and its checkpoint is read back as a version. -/
def Answers (entry : Entry Data) : Prop :=
  entry.raised = false → ∃ path v, entry.basePath = some path ∧ entry.version? = some v

end Entry

/-- Every failure is reported, and all versions and totals are exact as doubles. -/
structure Exact (entries : List (Entry Data)) : Prop where
  reported : ∀ entry ∈ entries, entry.returnsOrReports = true
  versions : ∀ v ∈ entries.filterMap (·.version?), v.natAbs < twoTo 53
  fetches : entries.length < twoTo 53
  selected : (entries.map (·.selected)).sum < twoTo 53

theorem Exact.of_append {entries more : List (Entry Data)} (h : Exact (entries ++ more)) : Exact entries where
  reported entry hentry := h.reported entry (List.mem_append_left _ hentry)
  versions v hv := by
    apply h.versions v
    rw [List.filterMap_append]
    exact List.mem_append_left _ hv
  fetches := by
    have hfetches := h.fetches
    rw [List.length_append] at hfetches
    omega
  selected := by
    have hselected := h.selected
    rw [List.map_append, List.sum_append] at hselected
    omega

/-- A result that is counted under this outcome. -/
def Outcome.Closes (outcome : Outcome) : Except Failure (Batch Data) → Prop
  | .ok batch => outcome ≠ .failed ∧ (batch.data.isSome = true ↔ outcome = .loaded)
  | .error _ => outcome = .failed

/-- What a fetch with this outcome adds to the count under a label. -/
def Outcome.mark (outcome : Outcome) (label : String) : Nat := if label = outcome.name then 1 else 0

/-- The label under which a fetch is counted shows what its caller got. -/
theorem Outcome.Closes.marks {outcome : Outcome} {entry : Entry Data} (h : outcome.Closes entry.result) :
    outcome.mark "failed" = (if entry.raised then 1 else 0) ∧
      outcome.mark "loaded" = (if entry.loads then 1 else 0) ∧
      outcome.mark "caught_up" + outcome.mark "empty_read" + outcome.mark "no_matching_files" +
        outcome.mark "no_existing_files" = if entry.returnsNothing then 1 else 0 := by
  unfold Entry.raised Entry.loads Entry.returnsNothing
  cases hresult : entry.result with
  | error e =>
    rw [hresult] at h
    cases show outcome = .failed from h
    simp [mark, name]
  | ok batch =>
    rw [hresult] at h
    obtain ⟨hne, hdata⟩ : outcome ≠ .failed ∧ (batch.data.isSome = true ↔ outcome = .loaded) := h
    cases hsome : batch.data with
    | some data =>
      cases hdata.mp (by rw [hsome]; rfl)
      simp [mark, name, hsome]
    | none =>
      have hloaded : outcome ≠ .loaded := by simpa [hsome, eq_comm] using hdata
      cases outcome with
      | failed => exact absurd rfl hne
      | loaded => exact absurd rfl hloaded
      | caughtUp | emptyRead | noMatchingFiles | noExistingFiles => simp [mark, name, hsome]

namespace Ledger

/-- Every reference extracted was loaded or dropped. -/
def Balanced (books : Ledger) : Prop := books.extracted = books.loaded + books.dropped.total

def survey (books : Ledger) (n : Nat) (found : Survey) : Ledger :=
  (books.countFiles n found.paths.length).drop found.dropped.counts

theorem Balanced.survey {books : Ledger} (h : books.Balanced) {n : Nat} {found : Survey}
    (hfound : found.paths.length + found.dropped.total = n) : (books.survey n found).Balanced := by
  unfold Balanced at h ⊢
  unfold Ledger.survey
  rw [total_drop, Dropped.sum_counts]
  change books.extracted + n = books.loaded + found.paths.length + (books.dropped.total + found.dropped.total)
  omega

/-- The ledger after a survey of `n` references was entered, if there were any. -/
structure Surveyed (after before : Ledger) (n : Nat) : Prop where
  balanced : after.Balanced
  extracted : after.extracted = before.extracted + n
  batches : after.batches = before.batches
  observed : after.observed = before.observed
  reached : after.reached = before.reached

/-- The ledger after a fetch. -/
structure Follows (after before : Ledger) (entry : Entry Data) : Prop where
  batches : ∃ outcome : Outcome, outcome.Closes entry.result ∧ after.batches = before.batches.raise outcome.name 1
  observed : after.observed = before.observed + 1
  extracted : after.extracted = before.extracted + entry.selected
  balanced : after.Balanced
  answers : entry.Answers
  reached : ∀ path, after.reached.get? path = (entry.versionAt path).or (before.reached.get? path)

theorem Surveyed.follows {books entered : Ledger} {entry : Entry Data} (h : entered.Surveyed books entry.selected)
    {outcome : Outcome} (hcloses : outcome.Closes entry.result) (hanswers : entry.Answers) {reached : Keyed Int}
    (hreached : ∀ path, reached.get? path = (entry.versionAt path).or (books.reached.get? path)) :
    Follows { entered.countBatch outcome.name with reached := reached } books entry where
  batches := ⟨outcome, hcloses, by rw [← h.batches]; rfl⟩
  observed := congrArg (· + 1) h.observed
  extracted := h.extracted
  balanced := h.balanced
  answers := hanswers
  reached := hreached

/-- The ledger accounts for these fetches. -/
structure Tells (books : Ledger) (entries : List (Entry Data)) : Prop where
  batches : books.batches.total = entries.length
  observed : books.observed = entries.length
  failed : books.batches.count "failed" = entries.countP (·.raised)
  loaded : books.batches.count "loaded" = entries.countP (·.loads)
  others : books.batches.count "caught_up" + books.batches.count "empty_read" +
    books.batches.count "no_matching_files" + books.batches.count "no_existing_files" =
      entries.countP (·.returnsNothing)
  extracted : books.extracted = (entries.map (·.selected)).sum
  balanced : books.extracted = books.loaded + books.dropped.total
  answers : ∀ entry ∈ entries, entry.Answers
  reached : ∀ path, books.reached.get? path = (entries.filterMap (·.versionAt path)).getLast?

theorem tells_nil : Tells {} ([] : List (Entry Data)) :=
  ⟨rfl, rfl, rfl, rfl, rfl, rfl, rfl, fun _ h => absurd h List.not_mem_nil, fun _ => rfl⟩

theorem Tells.concat {books after : Ledger} {entries : List (Entry Data)} {entry : Entry Data}
    (h : books.Tells entries) (hafter : after.Follows books entry) : after.Tells (entries ++ [entry]) := by
  obtain ⟨outcome, hcloses, hbatches⟩ := hafter.batches
  obtain ⟨htotal, hobserved, hfailed, hloaded, hothers, hextracted, -, hanswers, hreached⟩ := h
  have hcount (label : String) :
      after.batches.count label = books.batches.count label + outcome.mark label := by
    rw [hbatches, Keyed.count_raise, Outcome.mark]
  constructor
  case batches => rw [hbatches, Keyed.total_raise, htotal, List.length_append, List.length_singleton]
  case observed => rw [hafter.observed, hobserved, List.length_append, List.length_singleton]
  case extracted => rw [hafter.extracted, hextracted, List.map_append, List.sum_append, List.map_singleton,
    List.sum_singleton]
  case balanced => exact hafter.balanced
  case answers =>
    intro e he
    rcases List.mem_append.mp he with he | he
    · exact hanswers e he
    · exact List.mem_singleton.mp he ▸ hafter.answers
  case reached =>
    intro path
    rw [hafter.reached, hreached, List.filterMap_append, List.getLast?_append]
    cases hversion : entry.versionAt path with
    | none => rw [List.filterMap_cons_none hversion]; rfl
    | some v => rw [List.filterMap_cons_some hversion]; rfl
  case' failed => have hmarks := hcloses.marks.1
  case' loaded => have hmarks := hcloses.marks.2.1
  case' others => have hmarks := hcloses.marks.2.2
  all_goals
    rw [List.countP_append, List.countP_singleton]
    simp only [hcount]
    omega

end Ledger

namespace Registry

variable {r : Registry} {books : Ledger}

theorem Shows.recordSurvey (h : r.Shows books) (hbalanced : books.Balanced) {n : Nat} {found : Survey}
    (hfound : found.paths.length + found.dropped.total = n) (hfits : books.extracted + n < twoTo 53) :
    (Registry.recordSurvey n found r).2 = .ok () ∧
      (Registry.recordSurvey n found r).1.Shows (books.survey n found) := by
  unfold Ledger.Balanced at hbalanced
  have hnonzero : ∀ c ∈ found.dropped.counts, c.2 ≠ 0 := by
    intro c hc
    exact (Dropped.mem_counts.mp hc).1
  have hloaded : books.loaded + found.paths.length < twoTo 53 := by omega
  obtain ⟨hfiles, hshows⟩ := h.recordFiles hfits hloaded
  have hdropped : (books.countFiles n found.paths.length).dropped.total +
      (found.dropped.counts.map (·.2)).sum < twoTo 53 := by
    rw [Dropped.sum_counts]
    change books.dropped.total + found.dropped.total < twoTo 53
    omega
  rw [Registry.recordSurvey, both_of_ok (f := fun r => r.recordFiles _ _) hfiles]
  exact hshows.recordDropped hnonzero hdropped

theorem Surveyed.shows {n : Nat} {after : Registry} (hs : r.Surveyed n after) (h : r.Shows books)
    (hbalanced : books.Balanced) (hfits : books.extracted + n < twoTo 53) :
    ∃ entered : Ledger, after.Shows entered ∧ entered.Surveyed books n := by
  cases hs with
  | nothing => exact ⟨books, h, hbalanced, rfl, rfl, rfl, rfl⟩
  | @found n found hfound hrecord =>
    have hentered := h.recordSurvey hbalanced hfound hfits
    exact ⟨books.survey n found, hentered.2, hbalanced.survey hfound, rfl, rfl, rfl, rfl⟩

theorem recordVersion_cases (r : Registry) (basePath : String) (version : Figure) :
    (r.recordVersion basePath version).2 = .ok () ∨ (r.recordVersion basePath version).2 = .error .tooLarge := by
  unfold recordVersion
  split
  next => exact .inl rfl
  next => exact .inr rfl

section Follows

variable {entry : Entry Data} {seconds : Float} {after before : Registry} {entered : Ledger}
  (hshows : after.Shows entered) (hsurveyed : entered.Surveyed books entry.selected)
  (hseconds : seconds.isNaN = false) (hbatches : books.batches.total + 1 < twoTo 53)
  (hreported : entry.returnsOrReports = true)
include hshows hsurveyed hseconds hbatches hreported

theorem failed_follows {e : Failure} (hresult : entry.result = .error e) :
    ∃ last : Ledger, (after.settled seconds entry.result).Shows last ∧ last.Follows books entry := by
  have hcounted := hshows.recordBatch Outcome.failed.name hseconds (by rw [hsurveyed.batches]; exact hbatches)
  have hnone (path : String) : entry.versionAt path = none := by
    unfold Entry.versionAt Entry.version?
    rw [hresult]
    exact ite_self _
  have hcloses : Outcome.failed.Closes entry.result := by
    rw [hresult]
    rfl
  have hsettled : after.settled seconds entry.result = after.recordBatch Outcome.failed.name seconds := by
    unfold Entry.returnsOrReports at hreported
    rw [hresult] at hreported ⊢
    exact if_pos hreported
  have hanswers : entry.Answers := by
    intro hreturned
    unfold Entry.raised at hreturned
    rw [hresult] at hreturned
    cases hreturned
  rw [hsettled]
  refine ⟨_, hcounted, hsurveyed.follows hcloses hanswers fun path => ?_⟩
  rw [hnone, Option.none_or, hsurveyed.reached]

theorem closed_follows {path : String} {outcome : Outcome} {resolved : Resolved} {data : Option Data}
    (hpath : entry.basePath = some path) (htoken : format resolved.range.upper = .ok resolved.token)
    (houtcome : outcome ≠ .failed) (hdata : data.isSome = true ↔ outcome = .loaded)
    (hversions : ∀ v, entry.version? = some v → v.natAbs < twoTo 53)
    (hexit : (entry.result, before) = after.closed outcome seconds path resolved data) :
    ∃ last : Ledger, (before.settled seconds entry.result).Shows last ∧ last.Follows books entry := by
  have hcounted := hshows.recordBatch outcome.name hseconds (by rw [hsurveyed.batches]; exact hbatches)
  have hresult := congrArg Prod.fst hexit
  have hbefore := congrArg Prod.snd hexit
  unfold closed close at hresult hbefore
  dsimp only at hresult hbefore
  rcases recordVersion_cases (after.recordBatch outcome.name seconds) path (.whole resolved.range.upper)
    with hok | herror
  · rw [hok] at hresult
    have hreturns : entry.result = .ok ⟨data, resolved.token⟩ := hresult
    have hversion : entry.version? = some resolved.range.upper := by
      unfold Entry.version?
      rw [hreturns]
      dsimp only
      rw [startOf_format htoken]
      rfl
    have hcloses : outcome.Closes entry.result := by
      rw [hreturns]
      exact ⟨houtcome, hdata⟩
    obtain ⟨-, hnoted⟩ := hcounted.recordVersion path (hversions _ hversion)
    rw [hreturns, settled, hbefore]
    refine ⟨_, hnoted, hsurveyed.follows hcloses (fun _ => ⟨path, _, hpath, hversion⟩) fun other => ?_⟩
    rw [Keyed.get?_put, Entry.versionAt, hpath, hversion]
    by_cases hother : other = path
    · rw [if_pos hother, if_pos (congrArg some hother.symm), Option.some_or]
    · rw [if_neg hother, if_neg fun heq => hother (Option.some.inj heq).symm, Option.none_or]
      exact congrArg (Keyed.get? · other) hsurveyed.reached
  · -- A version beyond all doubles makes the fetch fail with what is not reported.
    rw [herror] at hresult
    have hraises : entry.result = .error .tooLarge := hresult
    unfold Entry.returnsOrReports at hreported
    rw [hraises] at hreported
    cases hreported

end Follows

/-- What a fetch enters keeps the registry in line with the ledger. -/
theorem Enters.follows {entry : Entry Data} {seconds : Float} {before : Registry}
    (henters : r.Enters entry.basePath seconds entry.selected (entry.result, before)) (h : r.Shows books)
    (hbalanced : books.Balanced) (hseconds : seconds.isNaN = false) (hbatches : books.batches.total + 1 < twoTo 53)
    (hfits : books.extracted + entry.selected < twoTo 53) (hreported : entry.returnsOrReports = true)
    (hversions : ∀ v, entry.version? = some v → v.natAbs < twoTo 53) :
    ∃ last : Ledger, (before.settled seconds entry.result).Shows last ∧ last.Follows books entry := by
  generalize hexit : (entry.result, before) = exit at henters
  cases henters with
  | unrecorded hfound hrecord =>
    rw [(h.recordSurvey hbalanced hfound hfits).1] at hrecord
    cases hrecord
  | stopped hs e =>
    obtain ⟨hresult, rfl⟩ := Prod.mk.inj hexit
    obtain ⟨entered, hshows, hsurveyed⟩ := hs.shows h hbalanced hfits
    exact failed_follows hshows hsurveyed hseconds hbatches hreported hresult
  | ended hs hpath htoken houtcome hdata =>
    obtain ⟨entered, hshows, hsurveyed⟩ := hs.shows h hbalanced hfits
    exact closed_follows hshows hsurveyed hseconds hbatches hreported hpath htoken houtcome hdata hversions hexit

end Registry

/-- The seconds that a fetch takes. -/
def Duration := { seconds : Float // seconds.isNaN = false }

/-- A source in operation: the settings and the scene as they are now, and the fetches made so far. -/
structure Operator (W Data : Type) where
  live : LiveSettings
  scene : Scene W
  entries : List (Entry Data)

namespace Operator

inductive Action (W : Type) where
  | change (f : W → W)
  | put (field : SourceField) (value : Json)
  | resolve (last : Json)
  | fetch (last limit : Json) (duration : Duration)

/-- All figures are at zero. -/
def start (live : LiveSettings) (scene : Scene W) : Operator W Data :=
  ⟨live, { scene with registry := Registry.empty }, []⟩

variable (source : Source W Rows Data)

/-- The scene in which a fetch begins that takes so long. -/
def opened (o : Operator W Data) (duration : Duration) : Scene W := { o.scene with elapsed := duration.1 }

def entry (o : Operator W Data) (last limit : Json) (duration : Duration) : Entry Data where
  basePath := o.live.basePath
  selected := numberOf ((source.selection o.live last limit).runIn (o.opened duration)).1
  result := ((source.fetch o.live last limit).runIn (o.opened duration)).1

/-- A fetch from any checkpoint. -/
def fetch (o : Operator W Data) (last limit : Json) (duration : Duration) : Operator W Data :=
  { o with
    scene := ((source.fetch o.live last limit).runIn (o.opened duration)).2
    entries := o.entries ++ [o.entry source last limit duration] }

def step (o : Operator W Data) : Action W → Operator W Data
  | .change f => { o with scene := { o.scene with world := f o.scene.world } }
  | .put field value => { o with live := o.live.put field value }
  | .resolve last => { o with scene := ((source.resolve o.live last).runIn o.scene).2 }
  | .fetch last limit duration => o.fetch source last limit duration

def run (o : Operator W Data) (actions : List (Action W)) : Operator W Data := actions.foldl (step source) o

/-- The registry shows a ledger that accounts for the fetches made. -/
def Kept (o : Operator W Data) : Prop := ∃ books : Ledger, o.scene.registry.Shows books ∧ books.Tells o.entries

theorem entries_step (o : Operator W Data) (action : Action W) :
    ∃ more, (o.step source action).entries = o.entries ++ more := by
  cases action with
  | change f => exact ⟨[], (List.append_nil _).symm⟩
  | put field value => exact ⟨[], (List.append_nil _).symm⟩
  | resolve last => exact ⟨[], (List.append_nil _).symm⟩
  | fetch last limit duration => exact ⟨_, rfl⟩

variable {source}

theorem kept_start (live : LiveSettings) (scene : Scene W) : Kept (start live scene : Operator W Data) :=
  ⟨{}, Registry.empty_shows, Ledger.tells_nil⟩

section Steps

variable (hmetered : source.metered = true) (hp : source.platform.Moves Scene.SameBooks)
include hmetered hp

theorem Kept.fetch {o : Operator W Data} (h : o.Kept) (last limit : Json) (duration : Duration)
    (hexact : Exact (o.fetch source last limit duration).entries) : (o.fetch source last limit duration).Kept := by
  obtain ⟨books, hshows, htells⟩ := h
  have hentries : (o.fetch source last limit duration).entries =
      o.entries ++ [o.entry source last limit duration] := rfl
  rw [hentries] at hexact
  have hmem := List.mem_append_right o.entries (List.mem_singleton_self (o.entry source last limit duration))
  have hfetches := hexact.fetches
  have hselected := hexact.selected
  rw [List.length_append, List.length_singleton, ← htells.batches] at hfetches
  rw [List.map_append, List.sum_append, List.map_singleton, List.sum_singleton, ← htells.extracted] at hselected
  obtain ⟨before, henters, hregistry⟩ := Source.fetch_enters hmetered hp last limit (o.opened duration)
  have hentered : o.scene.registry.Enters (o.entry source last limit duration).basePath duration.1
    (o.entry source last limit duration).selected ((o.entry source last limit duration).result, before) := henters
  obtain ⟨after, hafter, hfollows⟩ := hentered.follows hshows htells.balanced duration.2 hfetches hselected
    (hexact.reported _ hmem) fun v hv => hexact.versions v (List.mem_filterMap.mpr ⟨_, hmem, hv⟩)
  refine ⟨after, ?_, htells.concat hfollows⟩
  change ((source.fetch o.live last limit).runIn (o.opened duration)).2.registry.Shows after
  rw [hregistry]
  exact hafter

/-- Whatever is done, the books are kept. -/
theorem Kept.step {o : Operator W Data} (h : o.Kept) (action : Action W)
    (hexact : Exact (o.step source action).entries) : (o.step source action).Kept := by
  cases action with
  | change f => exact h
  | put field value => exact h
  | resolve last =>
    obtain ⟨books, hshows, htells⟩ := h
    have hresolve := hp.resolve Scene.course_sameBooks source.channel o.live last o.scene
    exact ⟨books, hresolve.1 ▸ hshows, htells⟩
  | fetch last limit duration => exact h.fetch hmetered hp last limit duration hexact

end Steps

/-- Over every run of a source whose platform records nothing itself, the registry accounts for every fetch. -/
theorem metrics_account (hmetered : source.metered = true) (hp : source.platform.Moves Scene.SameBooks)
    (live : LiveSettings) (scene : Scene W) (actions : List (Action W))
    (hexact : Exact ((start live scene).run source actions).entries) :
    ∃ books : Ledger, ((start live scene).run source actions).scene.registry.Shows books ∧
      books.Tells ((start live scene).run source actions).entries := by
  induction actions using List.reverseRecOn with
  | nil => exact kept_start live scene
  | append_singleton actions action ih =>
    unfold run at hexact ih ⊢
    rw [List.foldl_concat] at hexact ⊢
    generalize actions.foldl (step source) (start live scene) = before at hexact ih ⊢
    obtain ⟨more, hmore⟩ := before.entries_step source action
    have hkept : before.Kept := ih (hmore ▸ hexact).of_append
    exact hkept.step hmetered hp action hexact

/-- The object is loaded, then it is gone when the log is read again, and then there is no base path. -/
def threeFetches : List (Action Memory.Site) :=
  let half : Duration := ⟨0.5, by decide +kernel⟩
  [.fetch .null (.int 100) half, .change fun site => { site with probe := ⟨[], []⟩ },
    .fetch (.str "") (.int 100) half, .put .basePath .null, .fetch (.str "0") (.int 100) half]

theorem metrics_account_threeFetches :
    ∃ source, Source.build (Memory.probing Memory.Probe.presence) true Source.readingAll "source" true = .ok source ∧
      let after := (start Source.readingAll (Scene.start Source.oneRowSite)).run source threeFetches
      Exact after.entries ∧ after.entries.map (·.selected) = [1, 1, 0] ∧
        ∃ books : Ledger, after.scene.registry.Shows books ∧ books.batches.total = 3 ∧
          books.batches.count "failed" = 1 ∧ books.batches.count "loaded" = 1 ∧
          books.loaded + books.dropped.total = 2 ∧ books.reached.get? "lake" = some 0 := by
  refine ⟨_, rfl, ?_⟩
  intro after
  have hexact : Exact after.entries := by
    constructor
    case reported => decide +kernel
    case versions => decide +kernel
    case fetches => decide +kernel
    case selected => decide +kernel
  obtain ⟨books, hshows, htells⟩ := metrics_account rfl (Memory.probing_moves _) Source.readingAll
    (Scene.start Source.oneRowSite) threeFetches hexact
  refine ⟨hexact, by decide +kernel, books, hshows, ?_⟩
  rw [htells.batches, htells.failed, htells.loaded, ← htells.balanced, htells.extracted, htells.reached]
  decide +kernel

end Operator
end ObjectIntake
