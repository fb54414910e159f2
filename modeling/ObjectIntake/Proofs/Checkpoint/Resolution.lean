import ObjectIntake.Checkpoint.Resolution
import ObjectIntake.Proofs.ChangeLog.Memory
import ObjectIntake.Proofs.Numeral.Canonical
import ObjectIntake.Proofs.Settings.Live
import ObjectIntake.Proofs.Version.Planning
import ObjectIntake.Proofs.Written

/-!
What a checkpoint resolves to, as a function of the listed versions and the settings. Resolving in memory
computes this function and leaves the site as it is.
-/
namespace ObjectIntake.Checkpoint
open Settings Memory

/-- A token that is read is not empty, so it counts as one. -/
theorem startOf_of_parse {t : String} {v : Int} (h : parse (.str t) = .ok v) :
    startOf (normalize (.str t)) = .ok (some v) := by
  have hne : t ≠ "" := by
    rintro rfl
    cases h
  rw [normalize, if_neg hne]
  change (parse (.str t)).map some = _
  rw [h]
  rfl

theorem parse_format {v : Int} {token : String} (h : format v = .ok token) : parse (.str token) = .ok v := by
  unfold format Numeral.written at h
  split at h
  next s hs =>
    cases h
    simp only [parse, Numeral.read?_write? hs]
  next => cases h

/-- The token of a version is read back as that version. -/
theorem startOf_format {v : Int} {token : String} (h : format v = .ok token) :
    startOf (normalize (.str token)) = .ok (some v) := startOf_of_parse (parse_format h)

/-- The base path in force. -/
def requiredBasePath (s : LiveSettings) : Except Failure String :=
  match s.basePath with
  | none => throw (.configuration .noBasePath)
  | some "" => throw (.configuration .noBasePath)
  | some basePath => pure basePath

def checkedSize (s : LiveSettings) : Except Failure Unit := do
  s.check .sizeCheck
  if s.fetchSize < 1 then throw (.configuration (.fetchSizeBelowOne (← Numeral.written s.fetchSize)))

/-- The strategy in force, whose name is needed where another one was given. -/
def checkedStrategy (s : LiveSettings) : Except Failure (Option Strategy) := do
  if (strategyWarning s.toSourceSettings).isSome then s.check .strategyName
  return strategy s.toSourceSettings

/-- Where versions are gone, the warning of it can be written. -/
def Warnable (plan : Version.Plan) : Prop :=
  ∀ oldest ∈ plan.truncatedAt, Numeral.Writable plan.range.lower ∧ Numeral.Writable oldest

instance : DecidablePred Warnable := fun plan =>
  inferInstanceAs (Decidable (∀ oldest ∈ plan.truncatedAt, _))

/-- The plan, unless the warning that goes with it cannot be written. -/
def warned (plan : Version.Plan) : Except Failure Version.Plan :=
  if Warnable plan then .ok plan else .error .integerTooLong

def planOf (versions : List Int) (s : LiveSettings) (lower : Option Int) (strategy : Option Strategy) :
    Except Failure Version.Plan :=
  match Version.plan versions s.fetchSize lower strategy with
  | .error .noVersions => throw (.resolution (.noVersions (s.value .basePath)))
  | .error .noStrategy => throw (.resolution (.noStrategy (s.value .basePath)))
  | .ok plan => warned plan

/-- What a checkpoint resolves to where these versions are listed. -/
def resolution (versions : List Int) (s : LiveSettings) (last : Json) : Except Failure Resolved := do
  let _ ← requiredBasePath s
  checkedSize s
  let strategy ← checkedStrategy s
  let lower ← startOf (normalize last)
  if lower.isSome && !versions.isEmpty then s.check .sizeCount
  let plan ← planOf versions s lower strategy
  let token ← format plan.range.upper
  let _ ← resolvedText last plan
  return ⟨plan.mode, plan.range, token⟩

/-- What is told of the plan for a checkpoint can be written. -/
structure Told (last : Json) (plan : Version.Plan) : Prop where
  checkpoint : last.isWritable = true
  range : plan.range.Writable
  warnable : Warnable plan

theorem gapWarning_eq (lower oldest : Int) :
    gapWarning lower oldest =
      if Numeral.Writable lower ∧ Numeral.Writable oldest then
        .ok ("Checkpoint " ++ Numeral.text lower ++ " predates retained history (earliest " ++ Numeral.text oldest ++
          "), falling back to snapshot read")
      else .error .integerTooLong :=
  Numeral.written_two (fun lower oldest => "Checkpoint " ++ lower ++ " predates retained history (earliest " ++
    oldest ++ "), falling back to snapshot read") lower oldest

theorem resolvedText_eq_ok {last : Json} {plan : Version.Plan} :
    (∃ message, resolvedText last plan = .ok message) ↔ last.isWritable = true ∧ plan.range.Writable := by
  unfold resolvedText
  cases hlast : last.isWritable with
  | false =>
    rw [Json.writtenAs_of_not_isWritable hlast]
    simp [bind, Except.bind]
  | true =>
    rw [Json.writtenAs_of_isWritable hlast, VersionRange.written_eq]
    split
    next hrange => simp [bind, Except.bind, pure, Except.pure, hrange]
    next hrange => simp [bind, Except.bind, hrange]

theorem warned_failure {plan : Version.Plan} {e : Failure} (h : warned plan = .error e) : e = .integerTooLong := by
  unfold warned at h
  split at h
  next => cases h
  next =>
    cases h
    rfl

theorem resolvedText_failure {last : Json} {plan : Version.Plan} {e : Failure} (h : resolvedText last plan = .error e) :
    e = .integerTooLong := by
  unfold resolvedText at h
  cases hlast : last.isWritable with
  | false =>
    rw [Json.writtenAs_of_not_isWritable hlast] at h
    cases h
    rfl
  | true =>
    rw [Json.writtenAs_of_isWritable hlast, VersionRange.written_eq] at h
    split at h
    next => cases h
    next =>
      cases h
      rfl

theorem writable_origin : Numeral.Writable VersionRange.origin := by decide +kernel

/-- Where the end of a plan can be written, so can all else that is told of it. -/
theorem told_of_plan {last : Json} (hlast : last.isWritable = true) {versions : List Int} {count : Int}
    {lower : Option Int} {strategy : Option Strategy} {plan : Version.Plan}
    (hlower : ∀ v ∈ lower, Numeral.Writable v) (hcount : 1 ≤ count)
    (hplan : Version.plan versions count lower strategy = .ok plan) (hupper : Numeral.Writable plan.range.upper) :
    Told last plan := by
  have hbegin : Numeral.Writable plan.range.lower := by
    obtain ⟨-, ⟨l, rfl, hrange⟩ | ⟨newest, s, rfl, -, -, -, rfl⟩⟩ := Version.plan_ok hplan
    · rw [hrange]
      exact hlower l rfl
    · cases s with
      | latest => exact hupper
      | uptoLatest => exact writable_origin
  refine ⟨hlast, ⟨hbegin, hupper⟩, fun oldest holdest => ⟨hbegin, ?_⟩⟩
  obtain ⟨hle, hge⟩ := Version.truncatedAt_between hplan hcount holdest
  exact hbegin.of_le hupper hle hge

section Work

variable {W : Type} (w : W)

theorem planRange_of_ok {versions : List Int} {count : Int} {lower : Option Int} {strategy : Option Strategy}
    {p : Version.Plan} (h : Version.plan versions count lower strategy = .ok p) (basePath : Json) :
    (planRange versions count lower strategy basePath).Gives w (warned p) w := by
  unfold planRange warned Warnable
  rw [h]
  dsimp only
  split
  next oldest holdest =>
    have hwarning := gapWarning_eq p.range.lower oldest
    simp only [holdest, Option.mem_some_iff, forall_eq']
    split at hwarning
    next hwritable =>
      rw [if_pos hwritable]
      exact (Work.Gives.tell_ok hwarning).bind (Work.Gives.pure _)
    next hlong =>
      rw [if_neg hlong]
      exact (Work.Gives.tell_error hwarning).bind_error
  next hnone =>
    simp only [hnone, Option.not_mem_none, false_imp_iff, implies_true, if_true]
    exact Work.Gives.pure _

theorem planRange_gives (versions : List Int) (s : LiveSettings) (lower : Option Int)
    (strategy : Option Strategy) :
    (planRange versions s.fetchSize lower strategy (s.value .basePath)).Gives w
      (planOf versions s lower strategy) w := by
  unfold planOf
  cases hplan : Version.plan versions s.fetchSize lower strategy with
  | error e =>
    unfold planRange
    rw [hplan]
    cases e <;> exact Work.Gives.throw _
  | ok plan => exact planRange_of_ok w hplan _

theorem effectiveStrategy_gives (channel : String) (s : LiveSettings) :
    (effectiveStrategy channel s).Gives w (checkedStrategy s) w := by
  unfold effectiveStrategy checkedStrategy
  dsimp only
  split
  next message hmessage =>
    rw [hmessage, if_pos Option.isSome_some]
    exact (Work.Gives.ofExcept _).bind_steady fun _ _ => (Work.Gives.log _ _ _).bind (Work.Gives.pure _)
  next hnone =>
    rw [hnone, if_neg (by decide)]
    exact Work.Gives.pure _

end Work

/-- In worlds of some kind these versions are listed for a base path, and listing them leads to such a world. -/
def Lists {W Rows Data : Type} (platform : Platform W Rows Data) (basePath : String) (versions : List Int)
    (kind : W → Prop) : Prop :=
  ∀ w, kind w → (platform.versions basePath).Stays kind w (.ok versions)

/-- On any platform resolving computes the resolution for the versions that are listed. -/
theorem resolve_stays {W Rows Data : Type} {platform : Platform W Rows Data} {s : LiveSettings} {versions : List Int}
    {kind : W → Prop} (hlists : ∀ basePath, s.basePath = some basePath → Lists platform basePath versions kind)
    (channel : String) (last : Json) {w : W} (hw : kind w) :
    (resolve platform channel s last).Stays kind w (resolution versions s last) := by
  have hplanned (w : W) (lower : Option Int) (strategy : Option Strategy) :
      (do let plan ← planRange versions s.fetchSize lower strategy (s.value .basePath)
          let token ← Work.ofExcept (format plan.range.upper)
          Work.tell channel .info (resolvedText last plan)
          return ⟨plan.mode, plan.range, token⟩ : Work W Resolved).Gives w
        (do let plan ← planOf versions s lower strategy
            let token ← format plan.range.upper
            let _ ← resolvedText last plan
            return ⟨plan.mode, plan.range, token⟩) w := by
    refine (planRange_gives w _ s lower strategy).bind_steady fun plan _ => ?_
    refine (Work.Gives.ofExcept _).bind_steady fun token _ => ?_
    have htell := Work.Gives.tell (w := w) channel .info (resolvedText last plan)
    cases hmessage : resolvedText last plan with
    | error e => exact (hmessage ▸ htell).bind_error
    | ok message => exact (hmessage ▸ htell).bind (Work.Gives.pure _)
  unfold resolve resolution checkedSize
  dsimp only
  split
  next hbase =>
    rw [requiredBasePath, hbase]
    exact .of_gives hw (Work.Gives.throw _).bind_error
  next hbase =>
    rw [requiredBasePath, hbase]
    exact .of_gives hw (Work.Gives.throw _).bind_error
  next basePath hne hbase =>
    have hrequired : requiredBasePath s = .ok basePath := by
      unfold requiredBasePath
      split
      next h => rw [h] at hbase; cases hbase
      next h => rw [h] at hbase; cases hbase; exact absurd rfl hne
      next h => rw [h] at hbase; cases hbase; rfl
    rw [hrequired]
    refine (Work.Stays.of_gives hw (Work.Gives.pure basePath)).bind fun w hw => ?_
    change Work.Stays kind _ w ((_ >>= _) >>= _)
    rw [bind_assoc]
    refine .bind_steady hw (Work.Gives.ofExcept _) fun _ _ => ?_
    by_cases hsize : s.fetchSize < 1
    · rw [if_pos hsize, if_pos hsize, bind_assoc]
      refine .bind_steady hw (Work.Gives.ofExcept _) fun _ _ => ?_
      exact .of_gives hw (Work.Gives.throw _).bind_error
    rw [if_neg hsize, if_neg hsize]
    refine .bind_steady hw (effectiveStrategy_gives w channel s) fun strategy _ => ?_
    refine (hlists basePath hbase w hw).bind fun w hw => .of_gives hw ?_
    refine (Work.Gives.ofExcept _).bind_steady fun lower _ => ?_
    refine Work.Gives.ite (fun _ => ?_) fun _ => hplanned w lower strategy
    exact (Work.Gives.ofExcept _).bind_steady fun _ _ => hplanned w lower strategy

theorem lists_probing (answers : Probe → String → ObjectPath.Presence) (basePath : String) (versions : List Int) :
    Lists (probing answers) basePath versions fun site => site.log.versions = versions := by
  rintro site rfl
  exact .of_gives rfl (versions_gives basePath site)

theorem resolve_gives (answers : Probe → String → ObjectPath.Presence) (channel : String)
    (s : LiveSettings) (last : Json) (site : Site) :
    (resolve (probing answers) channel s last).Gives site (resolution site.log.versions s last) site := by
  have hlists (basePath : String) : Lists (probing answers) basePath site.log.versions (· = site) := by
    rintro w rfl
    exact .of_gives rfl (versions_gives basePath w)
  have hstays : (resolve (probing answers) channel s last).Stays (· = site) site
      (resolution site.log.versions s last) := resolve_stays (fun basePath _ => hlists basePath) channel last rfl
  obtain ⟨_, rfl, hgives⟩ := hstays
  exact hgives

/-- On any platform the token is that of the version reached, and there is a base path. -/
theorem resolve_eq_ok {W Rows Data : Type} {platform : Platform W Rows Data} {channel : String} {s : LiveSettings}
    {last : Json} {scene : Scene W} {resolved : Resolved}
    (h : ((resolve platform channel s last).runIn scene).1 = .ok resolved) :
    (∃ basePath, s.basePath = some basePath) ∧ format resolved.range.upper = .ok resolved.token := by
  have hplanned {versions : List Int} {lower : Option Int} {strategy : Option Strategy} {scene : Scene W}
      (h : ((do
        let plan ← planRange versions s.fetchSize lower strategy (s.value .basePath)
        let token ← Work.ofExcept (format plan.range.upper)
        Work.tell channel .info (resolvedText last plan)
        return ⟨plan.mode, plan.range, token⟩ : Work W Resolved).runIn scene).1 = .ok resolved) :
      format resolved.range.upper = .ok resolved.token := by
    obtain ⟨plan, -, h⟩ := Work.runIn_bind_eq_ok h
    obtain ⟨token, htoken, h⟩ := Work.runIn_bind_eq_ok h
    obtain ⟨_, -, h⟩ := Work.runIn_bind_eq_ok h
    cases h
    exact htoken
  unfold resolve at h
  dsimp only at h
  split at h
  next =>
    obtain ⟨_, hthrow, -⟩ := Work.runIn_bind_eq_ok h
    cases hthrow
  next =>
    obtain ⟨_, hthrow, -⟩ := Work.runIn_bind_eq_ok h
    cases hthrow
  next basePath _ hbase =>
    refine ⟨⟨basePath, hbase⟩, ?_⟩
    obtain ⟨_, -, h⟩ := Work.runIn_bind_eq_ok h
    obtain ⟨_, -, h⟩ := Work.runIn_bind_eq_ok h
    split at h
    · obtain ⟨_, -, h⟩ := Work.runIn_bind_eq_ok h
      obtain ⟨_, hthrow, -⟩ := Work.runIn_bind_eq_ok h
      cases hthrow
    obtain ⟨_, -, h⟩ := Work.runIn_bind_eq_ok h
    obtain ⟨_, -, h⟩ := Work.runIn_bind_eq_ok h
    obtain ⟨_, -, h⟩ := Work.runIn_bind_eq_ok h
    obtain ⟨_, -, h⟩ := Work.runIn_when_eq_ok h
    exact hplanned h

theorem checkedSize_eq_ok {s : LiveSettings} :
    checkedSize s = .ok () ↔ s.check .sizeCheck = .ok () ∧ 1 ≤ s.fetchSize := by
  unfold checkedSize
  rw [Work.bind_eq_ok]
  by_cases hsize : s.fetchSize < 1
  · simp only [if_pos hsize]
    constructor
    · rintro ⟨_, -, h⟩
      obtain ⟨_, -, h⟩ := Work.bind_eq_ok.mp h
      cases h
    · rintro ⟨-, h⟩
      omega
  · simp only [if_neg hsize]
    constructor
    · rintro ⟨_, h, -⟩
      exact ⟨h, by omega⟩
    · rintro ⟨h, -⟩
      exact ⟨(), h, rfl⟩

theorem eq_strategy_of_checked {s : LiveSettings} {given : Option Strategy}
    (h : checkedStrategy s = .ok given) : given = strategy s.toSourceSettings := by
  unfold checkedStrategy at h
  split at h
  · obtain ⟨_, -, h⟩ := Work.bind_eq_ok.mp h
    cases h
    rfl
  · cases h
    rfl

theorem planOf_eq_ok {versions : List Int} {s : LiveSettings} {lower : Option Int}
    {strategy : Option Strategy} {plan : Version.Plan} :
    planOf versions s lower strategy = .ok plan ↔
      Version.plan versions s.fetchSize lower strategy = .ok plan ∧ Warnable plan := by
  unfold planOf warned
  constructor
  · intro h
    split at h
    · cases h
    · cases h
    · split at h
      next hwarnable =>
        cases h
        exact ⟨by assumption, hwarnable⟩
      next => cases h
  · rintro ⟨h, hwarnable⟩
    rw [h]
    exact if_pos hwarnable

theorem resolved_eq_ok {versions : List Int} {s : LiveSettings} {last : Json} {lower : Option Int}
    {strategy : Option Strategy} {r : Resolved} :
    (do let plan ← planOf versions s lower strategy
        let token ← format plan.range.upper
        let _ ← resolvedText last plan
        return (⟨plan.mode, plan.range, token⟩ : Resolved)) = .ok r ↔
      ∃ plan, Version.plan versions s.fetchSize lower strategy = .ok plan ∧
        plan.mode = r.mode ∧ plan.range = r.range ∧ format plan.range.upper = .ok r.token ∧ Told last plan := by
  constructor
  · intro h
    obtain ⟨plan, hplan, h⟩ := Work.bind_eq_ok.mp h
    obtain ⟨token, htoken, h⟩ := Work.bind_eq_ok.mp h
    obtain ⟨message, hmessage, h⟩ := Work.bind_eq_ok.mp h
    obtain ⟨hplan, hwarnable⟩ := planOf_eq_ok.mp hplan
    obtain ⟨hlast, hrange⟩ := resolvedText_eq_ok.mp ⟨message, hmessage⟩
    cases h
    exact ⟨plan, hplan, rfl, rfl, htoken, hlast, hrange, hwarnable⟩
  · rintro ⟨plan, hplan, hmode, hrange, htoken, htold⟩
    obtain ⟨message, hmessage⟩ := resolvedText_eq_ok.mpr ⟨htold.checkpoint, htold.range⟩
    refine Work.bind_eq_ok.mpr ⟨plan, planOf_eq_ok.mpr ⟨hplan, htold.warnable⟩, ?_⟩
    refine Work.bind_eq_ok.mpr ⟨r.token, htoken, Work.bind_eq_ok.mpr ⟨message, hmessage, ?_⟩⟩
    rw [hmode, hrange]
    rfl

/-- The settings have a base path and a strategy that can be named where that is needed. -/
def Configured (s : LiveSettings) : Prop :=
  (∃ basePath, requiredBasePath s = .ok basePath) ∧
    checkedStrategy s = .ok (strategy s.toSourceSettings)

/-- When a checkpoint resolves, and to what. -/
theorem resolution_eq_ok {versions : List Int} {s : LiveSettings} {last : Json} {r : Resolved} :
    resolution versions s last = .ok r ↔
      Configured s ∧ s.check .sizeCheck = .ok () ∧ 1 ≤ s.fetchSize ∧
        ∃ lower plan, startOf (normalize last) = .ok lower ∧
          (lower.isSome = true → versions ≠ [] → s.check .sizeCount = .ok ()) ∧
          Version.plan versions s.fetchSize lower (strategy s.toSourceSettings) = .ok plan ∧
          plan.mode = r.mode ∧ plan.range = r.range ∧ format plan.range.upper = .ok r.token ∧ Told last plan := by
  have hcounted {lower : Option Int} : (lower.isSome && !versions.isEmpty) = true ↔
      lower.isSome = true ∧ versions ≠ [] := by
    rw [Bool.and_eq_true, Bool.not_eq_true', List.isEmpty_eq_false_iff]
  unfold resolution
  dsimp only
  constructor
  · intro h
    obtain ⟨basePath, hbase, h⟩ := Work.bind_eq_ok.mp h
    obtain ⟨_, hsize, h⟩ := Work.bind_eq_ok.mp h
    obtain ⟨given, hgiven, h⟩ := Work.bind_eq_ok.mp h
    obtain ⟨lower, hlower, h⟩ := Work.bind_eq_ok.mp h
    obtain rfl := eq_strategy_of_checked hgiven
    obtain ⟨hcheck, hone⟩ := checkedSize_eq_ok.mp hsize
    refine ⟨⟨⟨basePath, hbase⟩, hgiven⟩, hcheck, hone, lower, ?_⟩
    split at h
    next hc =>
      obtain ⟨_, hcount, h⟩ := Work.bind_eq_ok.mp h
      obtain ⟨plan, hplan⟩ := resolved_eq_ok.mp h
      exact ⟨plan, hlower, fun _ _ => hcount, hplan⟩
    next hc =>
      obtain ⟨plan, hplan⟩ := resolved_eq_ok.mp h
      exact ⟨plan, hlower, fun hsome hne => absurd (hcounted.mpr ⟨hsome, hne⟩) hc, hplan⟩
  · rintro ⟨⟨⟨basePath, hbase⟩, hgiven⟩, hcheck, hone, lower, plan, hlower, hcount, hplan⟩
    rw [hbase, checkedSize_eq_ok.mpr ⟨hcheck, hone⟩, hgiven, hlower]
    have hresolved := resolved_eq_ok.mpr ⟨plan, hplan⟩
    by_cases hc : (lower.isSome && !versions.isEmpty) = true
    · obtain ⟨hsome, hne⟩ := hcounted.mp hc
      change (if _ then _ else _) = _
      rw [if_pos hc, hcount hsome hne]
      exact hresolved
    · change (if _ then _ else _) = _
      rw [if_neg hc]
      exact hresolved

/-- The range that a checkpoint resolves to can be told of. -/
theorem writable_of_resolution {versions : List Int} {s : LiveSettings} {last : Json} {r : Resolved}
    (h : resolution versions s last = .ok r) : r.range.Writable := by
  obtain ⟨-, -, -, lower, plan, -, -, -, -, hrange, -, htold⟩ := resolution_eq_ok.mp h
  exact hrange ▸ htold.range

/-- So can the checkpoint. -/
theorem checkpoint_isWritable {versions : List Int} {s : LiveSettings} {last : Json} {r : Resolved}
    (h : resolution versions s last = .ok r) : last.isWritable = true := by
  obtain ⟨-, -, -, _, _, -, -, -, -, -, -, htold⟩ := resolution_eq_ok.mp h
  exact htold.checkpoint

/-- Without a checkpoint the strategy says what is read of the versions up to the newest one. -/
theorem resolution_afresh {s : LiveSettings} (hs : Configured s) (hcheck : s.check .sizeCheck = .ok ())
    (hsize : 1 ≤ s.fetchSize) {chosen : Strategy} (hstrategy : strategy s.toSourceSettings = some chosen)
    {versions : List Int} {newest : Int} (hnewest : (Version.ascending versions).getLast? = some newest)
    {token : String} (htoken : format newest = .ok token) :
    resolution versions s .null =
      .ok ⟨(Version.planAfresh newest chosen).mode, (Version.planAfresh newest chosen).range, token⟩ := by
  have hplan : Version.plan versions s.fetchSize none (strategy s.toSourceSettings) =
      .ok (Version.planAfresh newest chosen) := by
    rw [hstrategy, Version.plan, hnewest]
    cases hlisted : Version.ascending versions with
    | nil =>
      rw [hlisted] at hnewest
      cases hnewest
    | cons oldest rest => rfl
  have hupper : (Version.planAfresh newest chosen).range.upper = newest := by cases chosen <;> rfl
  have hnone : startOf (normalize .null) = .ok none := rfl
  have htold : Told .null (Version.planAfresh newest chosen) := by
    refine told_of_plan rfl (by simp) hsize hplan ?_
    rw [hupper]
    exact (Numeral.written_eq_ok_iff.mp htoken).1
  rw [resolution_eq_ok]
  refine ⟨hs, hcheck, hsize, none, _, hnone, fun h _ => ?_, hplan, rfl, rfl, by rw [hupper]; exact htoken, htold⟩
  cases h

/-- With one version listed, that is the newest. -/
theorem resolution_of_one_version {s : LiveSettings} (hs : Configured s)
    (hcheck : s.check .sizeCheck = .ok ()) (hsize : 1 ≤ s.fetchSize) {chosen : Strategy}
    (hstrategy : strategy s.toSourceSettings = some chosen) {v : Int} {token : String}
    (htoken : format v = .ok token) :
    resolution [v] s .null =
      .ok ⟨(Version.planAfresh v chosen).mode, (Version.planAfresh v chosen).range, token⟩ := by
  refine resolution_afresh hs hcheck hsize hstrategy ?_ htoken
  rw [Version.ascending_eq_self (List.pairwise_singleton _ _)]
  rfl

/-- After a checkpoint the versions that follow it are read, as many as the fetch size says. -/
theorem resolution_after {s : LiveSettings} (hs : Configured s) (hcheck : s.check .sizeCheck = .ok ())
    (hcount : s.check .sizeCount = .ok ()) (hsize : 1 ≤ s.fetchSize) {versions : List Int} (hlisted : versions ≠ [])
    {last : Json} (hlast : last.isWritable = true) {v : Int} (hstart : startOf (normalize last) = .ok (some v))
    (hv : Numeral.Writable v) {token : String}
    (htoken : format (Version.upperAfter (Version.ascending versions) s.fetchSize v) = .ok token) :
    ∃ mode, resolution versions s last =
      .ok ⟨mode, ⟨v, Version.upperAfter (Version.ascending versions) s.fetchSize v⟩, token⟩ := by
  obtain ⟨plan, hplan, hrange⟩ := Version.plan_some hlisted s.fetchSize v (strategy s.toSourceSettings)
  have htold : Told last plan := by
    refine told_of_plan hlast (fun w hw => ?_) hsize hplan ?_
    · cases hw
      exact hv
    · rw [hrange]
      exact (Numeral.written_eq_ok_iff.mp htoken).1
  refine ⟨plan.mode, resolution_eq_ok.mpr
    ⟨hs, hcheck, hsize, some v, plan, hstart, fun _ _ => hcount, hplan, rfl, hrange, ?_, htold⟩⟩
  rw [hrange]
  exact htoken

/-- The fetch size has no part in this. -/
theorem configured_put_iff {s : LiveSettings} {n : Int} :
    Configured (s.put .fetchSize (.int n)) ↔ Configured s := by
  have hcheck : (s.put .fetchSize (.int n)).check .strategyName = s.check .strategyName := by
    rw [LiveSettings.check_put_fetchSize, if_neg (by decide)]
  have hstrategy : checkedStrategy (s.put .fetchSize (.int n)) = checkedStrategy s := by
    unfold checkedStrategy
    rw [hcheck]
    rfl
  unfold Configured
  rw [hstrategy]
  exact Iff.rfl

end ObjectIntake.Checkpoint
