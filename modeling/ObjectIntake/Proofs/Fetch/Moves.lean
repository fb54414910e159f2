import ObjectIntake.Fetch
import ObjectIntake.Proofs.Work.Moves

/-!
A fetch does no more to the scene than the platform does, besides writing records and recording figures: a
relation that all calls on the platform keep to is kept to by each stage of a fetch and by the whole.
-/
namespace ObjectIntake
open Settings Event ObjectPath Checkpoint

variable {W Rows Data : Type} {R : Scene W → Scene W → Prop}

/-- No call on the platform leads out of the relation. -/
structure Platform.Moves (R : Scene W → Scene W → Prop) (p : Platform W Rows Data) : Prop where
  versions : ∀ basePath, (p.versions basePath).Moves R
  read : ∀ mode basePath range, (p.read mode basePath range).Moves R
  isEmpty : ∀ rows, (p.isEmpty rows).Moves R
  references : ∀ predicate rows, (p.references predicate rows).Moves R
  noteProbes : ∀ paths scene, R scene { scene with world := p.noteProbes paths scene.world }
  load : ∀ fileFormat options paths, (p.load fileFormat options paths).Moves R
  derive : ∀ column data, (p.derive column data).Moves R

theorem Dataset.partitionColumn_moves (hR : Scene.Course R) (channel : String) (s : LiveSettings)
    (paths : List String) : (Dataset.partitionColumn channel s paths : Work W _).Moves R := by
  unfold Dataset.partitionColumn
  refine hR.bind (hR.ofExcept _) fun _ => ?_
  split
  next =>
    split
    next => exact hR.throw _
    next =>
      split
      next => exact hR.throw _
      next => exact hR.pure _
      next => exact hR.bind (hR.log _ _ _) fun _ => hR.pure _
  next => exact hR.pure _

namespace Platform.Moves

variable {p : Platform W Rows Data} (hp : p.Moves R) (hR : Scene.Course R)
include hp hR

theorem resolve (channel : String) (s : LiveSettings) (last : Json) :
    (Checkpoint.resolve p channel s last).Moves R := by
  have hplan (versions : List Int) (lower : Option Int) (strategy : Option Strategy) :
      (planRange versions s.fetchSize lower strategy (s.value .basePath)).Moves R := by
    unfold planRange
    cases Version.plan versions s.fetchSize lower strategy with
    | error e => cases e <;> exact hR.throw _
    | ok plan =>
      dsimp only
      split
      next => exact hR.bind (hR.tell _ _ _) fun _ => hR.pure _
      next => exact hR.pure _
  have hstrategy : (effectiveStrategy channel s).Moves R := by
    unfold effectiveStrategy
    dsimp only
    split
    next => exact hR.bind (hR.ofExcept _) fun _ => hR.bind (hR.log _ _ _) fun _ => hR.pure _
    next => exact hR.pure _
  have hresolved (versions : List Int) (lower : Option Int) (strategy : Option Strategy)
      (message : Version.Plan → Except Failure String) :
      (do let plan ← planRange versions s.fetchSize lower strategy (s.value .basePath)
          let token ← Work.ofExcept (format plan.range.upper)
          Work.tell channel .info (message plan)
          return ⟨plan.mode, plan.range, token⟩ : Work W Resolved).Moves R :=
    hR.bind (hplan _ _ _) fun _ => hR.bind (hR.ofExcept _) fun _ => hR.bind (hR.tell _ _ _) fun _ => hR.pure _
  unfold Checkpoint.resolve
  dsimp only
  split
  next => exact hR.throw_bind _ _
  next => exact hR.throw_bind _ _
  next =>
    refine hR.bind (hR.pure _) fun _ => ?_
    refine hR.bind (hR.ofExcept _) fun _ => ?_
    split
    next => exact hR.bind (hR.ofExcept _) fun _ => hR.throw_bind _ _
    next =>
      refine hR.bind hstrategy fun strategy => ?_
      refine hR.bind (hp.versions _) fun versions => ?_
      refine hR.bind (hR.ofExcept _) fun lower => ?_
      split
      next => exact hR.bind (hR.ofExcept _) fun _ => hresolved _ _ _ _
      next => exact hresolved _ _ _ _

theorem select (channel : String) (predicate : Predicate) (rows : Rows) :
    (Source.select channel p predicate rows).Moves R :=
  hR.bind (hR.log _ _ _) fun _ => hR.bind (hp.references _ _) fun _ => hR.bind (hR.log _ _ _) fun _ => hR.pure _

theorem survey (surveyor : Surveyor) (refs : List Reference) : (Source.survey p surveyor refs).Moves R :=
  hR.bind hR.world fun _ => hR.bind (Work.Moves.change (hp.noteProbes _)) fun _ =>
    hR.bind (hR.writeAll _) fun _ => hR.pure _

theorem assemble (channel : String) (s : LiveSettings) (paths : List String) :
    (Dataset.assemble p channel s paths).Moves R := by
  unfold Dataset.assemble
  refine hR.bind (hR.ofExcept _) fun _ => hR.bind hR.world fun _ => ?_
  refine hR.bind (hR.ofExcept _) fun options => ?_
  refine Work.Moves.branch ?_ fun hrest => hR.bind (hR.log _ _ _) fun _ => hrest
  refine hR.bind (Dataset.partitionColumn_moves hR channel s paths) fun column => ?_
  refine hR.bind (hp.load _ _ _) fun data => ?_
  cases column with
  | some column => exact hp.derive column data
  | none => exact hR.pure data

end Platform.Moves

namespace Source

variable {source : Source W Rows Data} (hp : source.platform.Moves R) (hR : Scene.Course R)
  (hbooks : ∀ scene registry, R scene { scene with registry := registry })
include hp hR hbooks

omit hp in
theorem meter_moves (f : Registry → Registry × Except Failure Unit) : (source.meter f).Moves R := by
  unfold meter
  split
  next => exact Work.Moves.meter hbooks f
  next => exact hR.pure ()

omit hp in
theorem count_moves (outcome : Outcome) : (source.count outcome).Moves R :=
  hR.bind hR.elapsed fun _ => meter_moves hR hbooks _

omit hp in
theorem finish_moves (live : LiveSettings) (outcome : Outcome) (resolved : Resolved) (data : Option Data) :
    (source.finish live outcome resolved data).Moves R :=
  hR.bind (count_moves hR hbooks _) fun _ => hR.bind (meter_moves hR hbooks _) fun _ =>
    hR.bind (hR.write _) fun _ => hR.pure _

theorem fetchRange_moves (live : LiveSettings) (resolved : Resolved) :
    (source.fetchRange live resolved).Moves R := by
  have hfinish (outcome : Outcome) (data : Option Data) :
      (source.finish live outcome resolved data).Moves R := finish_moves hR hbooks live outcome resolved data
  unfold fetchRange
  dsimp only
  split
  next => exact hR.bind (hR.tell _ _ _) fun _ => hfinish _ _
  next =>
    refine hR.bind (hp.read _ _ _) fun rows => ?_
    refine hR.bind (hp.isEmpty rows) fun empty => ?_
    split
    next => exact hR.bind (hR.tell _ _ _) fun _ => hfinish _ _
    next =>
      refine hR.bind (hp.select hR _ _ _) fun refs => ?_
      split
      next => exact hfinish _ _
      next =>
        refine hR.bind (hp.survey hR _ _) fun found => ?_
        refine hR.bind (meter_moves hR hbooks _) fun _ => ?_
        refine hR.bind (meter_moves hR hbooks _) fun _ => ?_
        refine hR.bind (hR.log _ _ _) fun _ => ?_
        split
        next => exact hfinish _ _
        next => exact hR.bind (hp.assemble hR _ _ _) fun _ => hfinish _ _

theorem fetch_moves (live : LiveSettings) (last limit : Json) : (source.fetch live last limit).Moves R := by
  refine hR.bind (hR.ofExcept _) fun _ => hR.bind (hR.ofExcept _) fun _ => ?_
  refine hR.bind (hR.log _ _ _) fun _ => hR.tryCatch ?_ fun failure => ?_
  · exact hR.bind (hp.resolve hR _ _ _) fun resolved => fetchRange_moves hp hR hbooks live resolved
  · dsimp only
    split
    next =>
      exact hR.bind (hR.bind (count_moves hR hbooks _) fun _ => hR.write _) fun _ => hR.throw _
    next => exact hR.throw _

end Source
end ObjectIntake
