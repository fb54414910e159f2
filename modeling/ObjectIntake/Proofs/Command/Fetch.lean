import ObjectIntake.Proofs.ChangeLog.Session
import ObjectIntake.Proofs.Checkpoint.Store
import ObjectIntake.Proofs.Command.Start
import ObjectIntake.Proofs.Fetch.Pipeline

/-!
The fetch command. It starts from the checkpoint that is given or stored, and the stored one moves only after the
batch is complete.
-/
namespace ObjectIntake.Command
open Settings Checkpoint

variable {W Rows Data : Type} {R : Scene (Desk W) → Scene (Desk W) → Prop}

/-- What a fetch reads before it opens a session: where it starts and the settings of the source. -/
def preparation (context : Context W Rows Data) (o : FetchOptions) (path : FilePath) :
    Work (Desk W) (Json × SourceSettings) := do
  let last ← startingPoint context.place.depth path o.checkpoint
  Desk.say ("\n[bold blue]Fetching batch after checkpoint " ++ last.literal ++ "[/bold blue]\n")
  let s ← Desk.sourceSettings o.conf context.place
  return (last, s)

/-- A fetch up to its session. -/
def beforeSession (context : Context W Rows Data) (o : FetchOptions) :
    Work (Desk W) (FilePath × Json × SourceSettings) := do
  let path ← storePath context.place o.checkpointFile
  let (last, s) ← preparation context o path
  return (path, last, s)

/-- A fetch in its session up to the save. -/
def batchInSession (context : Context W Rows Data) (o : FetchOptions) (last : Json) (s : SourceSettings) :
    Work (Desk W) (Batch Data) := do
  Desk.onEngine context.host.openSession
  fetchBatch context o s last

/-- A fetch up to the save: where its checkpoint is stored, where it starts, and the batch. -/
def beforeSave (context : Context W Rows Data) (o : FetchOptions) :
    Work (Desk W) (FilePath × Json × Batch Data) := do
  let (path, last, s) ← beforeSession context o
  let batch ← batchInSession context o last s
  return (path, last, batch)

/-- What a fetch does in its session. -/
def inside (context : Context W Rows Data) (o : FetchOptions) (path : FilePath) (last : Json) (s : SourceSettings) :
    Work (Desk W) Unit := do
  let batch ← fetchBatch context o s last
  if o.save then saveToken context path batch.token

/-- What a fetch does once it knows the path. Its failures are reported. -/
def afterPath (context : Context W Rows Data) (o : FetchOptions) (path : FilePath) : Work (Desk W) Unit := do
  let (last, s) ← preparation context o path
  Desk.inSession context.host (inside context o path last s)

section Stages

variable (context : Context W Rows Data) (o : FetchOptions)

theorem fetch_eq :
    fetch context o =
      storePath context.place o.checkpointFile >>= fun path =>
        reporting .fetch "Fetch failed" (afterPath context o path) := by
  unfold fetch afterPath preparation inside
  simp only [bind_assoc, pure_bind]

section Moves

variable (hR : Desk.Course R)
include hR

theorem preparation_moves (path : FilePath) : (preparation context o path).Moves R :=
  hR.bind (startingPoint_moves hR _ _ _) fun _ => hR.bind (say_moves hR _) fun _ =>
    hR.bind (sourceSettings_moves hR _ _) fun _ => hR.pure _

theorem beforeSession_moves : (beforeSession context o).Moves R :=
  hR.bind (storePath_moves hR _ _) fun path => hR.bind (preparation_moves context o hR path) fun _ => hR.pure _

theorem fetchBatch_moves {T : Scene W → Scene W → Prop} (hT : Scene.Course T)
    (hbooks : ∀ scene registry, T scene { scene with registry := registry }) (hhost : context.host.Moves T)
    (hlift : ∀ {α : Type} {work : Work W α}, work.Moves T → (Desk.onEngine work).Moves R)
    (s : SourceSettings) (last : Json) : (fetchBatch context o s last).Moves R := by
  have hsource (source : Source W Rows Data)
      (hbuild : Source.build (context.host.platform s.commitColumn) s.checkExistence s.live sourceChannel true =
        .ok source) : source.platform.Moves T := by
    rw [Source.build_eq_ok hbuild]
    exact hhost.platform _
  unfold fetchBatch
  refine hR.bind (settings_moves hR _) fun application => ?_
  refine Work.Moves.branch ?_ fun hrest => hR.bind (serve_moves hR _) fun _ => hrest
  refine hR.ofExcept_bind fun source hbuild => ?_
  refine hR.bind (hlift (Source.fetch_moves (hsource source hbuild) hT hbooks _ _ _)) fun batch => ?_
  -- The rows are counted and displayed only where there are any.
  cases batch.data with
  | none =>
    refine hR.bind (hR.pure 0) fun rows => ?_
    exact hR.bind (hR.ofExcept _) fun previous => hR.bind (draw_moves hR _) fun _ => hR.pure _
  | some data =>
    refine hR.bind (hlift (hhost.countRows _)) fun rows => ?_
    refine hR.bind (hR.ofExcept _) fun previous => hR.bind (draw_moves hR _) fun _ => ?_
    exact Work.Moves.branch (hR.pure _) fun hrest => hR.bind (hlift (hhost.display _ _)) fun _ => hrest

end Moves

/-- The tree of files stays as it is. -/
def SameTree (before after : Scene (Desk W)) : Prop := after.world.tree = before.world.tree

theorem course_sameTree : Desk.Course (SameTree (W := W)) where
  writes _ _ := rfl
  trans hab hbc := hbc.trans hab
  desk _ _ _ htree := htree

/-- On the desk the engine is only called. -/
def OnlyCalls (trace : W → List Mark) : Scene (Desk W) → Scene (Desk W) → Prop :=
  Scene.Calls fun d => trace d.engine

theorem course_onlyCalls (trace : W → List Mark) : Desk.Course (OnlyCalls trace) where
  toCourse := Scene.course_calls _
  desk _ _ hengine _ := .of_trace_eq (congrArg trace hengine)

theorem onEngine_sameTree {α : Type} (work : Work W α) : (Desk.onEngine work).Moves SameTree :=
  fun scene => (onEngine_runIn work scene).2.2

theorem onEngine_onlyCalls {trace : W → List Mark} {α : Type} {work : Work W α}
    (hwork : work.Moves (Scene.Calls trace)) : (Desk.onEngine work).Moves (OnlyCalls trace) :=
  fun scene => hwork (Desk.engineScene scene)

theorem fetchBatch_sameTree (s : SourceSettings) (last : Json) : (fetchBatch context o s last).Moves SameTree := by
  have hany : Scene.Course (fun _ _ : Scene W => True) := ⟨fun _ _ => trivial, fun _ _ => trivial⟩
  exact fetchBatch_moves context o course_sameTree hany (fun _ _ => trivial) context.host.moves_true
    (fun {_ work} _ => onEngine_sameTree work) s last

theorem fetchBatch_onlyCalls {trace : W → List Mark} (h : context.host.Traced trace) (s : SourceSettings)
    (last : Json) : (fetchBatch context o s last).Moves (OnlyCalls trace) :=
  fetchBatch_moves context o (course_onlyCalls trace) (Scene.course_calls trace) (fun _ _ => .of_trace_eq rfl)
    h.calls onEngine_onlyCalls s last

/-- A save does not reach the engine. -/
theorem saveToken_onlyCalls (trace : W → List Mark) (path : FilePath) (token : String) :
    (saveToken context path token).Moves (OnlyCalls trace) := by
  have hsave : (Desk.onTree (Store.save path (.str token) context.stamp) : Work (Desk W) Unit).Moves
      (OnlyCalls trace) := fun _ => .of_trace_eq rfl
  exact (course_onlyCalls trace).bind hsave fun _ => say_moves (course_onlyCalls trace) _

/-- A save that comes to its end leaves the token where it is loaded from. -/
theorem load_saveToken (depth : Nat) {path : FilePath} {token : String} {scene : Scene (Desk W)}
    (h : ((saveToken context path token).runIn scene).1 = .ok ()) :
    Store.load (depth + 1) ((saveToken context path token).runIn scene).2.world.tree path = .ok (.str token) := by
  let filesScene : Scene FileTree := ⟨scene.world.tree, scene.journal, scene.registry, scene.elapsed⟩
  obtain ⟨_, hsaved, -⟩ := Work.runIn_bind_eq_ok h
  have hsaved' : ((Store.save path (.str token) context.stamp).runIn filesScene).1 = .ok () := hsaved
  have hload := Store.load_save depth hsaved'
  have htree : ((saveToken context path token).runIn scene).2.world.tree =
      ((Store.save path (.str token) context.stamp).runIn filesScene).2.world := by
    unfold saveToken
    rw [Work.runIn_bind_ok hsaved]
    exact say_moves course_sameTree _ _
  rw [htree]
  exact hload

section Session

variable (path : FilePath) (last : Json) (s : SourceSettings) (scene : Scene (Desk W))

theorem inside_sameTree (h : o.save = false ∨ ∃ e, ((fetchBatch context o s last).runIn scene).1 = .error e) :
    SameTree scene ((inside context o path last s).runIn scene).2 := by
  have hfetch := fetchBatch_sameTree context o s last scene
  unfold inside
  cases hbatch : ((fetchBatch context o s last).runIn scene).1 with
  | error e =>
    rw [Work.runIn_bind_error hbatch]
    exact hfetch
  | ok batch =>
    rcases h with hsave | ⟨e, he⟩
    · rw [Work.runIn_bind_ok hbatch, hsave]
      exact hfetch
    · cases hbatch.symm.trans he

theorem session_sameTree (h : o.save = false ∨ ∃ e, ((batchInSession context o last s).runIn scene).1 = .error e) :
    SameTree scene ((Desk.inSession context.host (inside context o path last s)).runIn scene).2 := by
  have hopen : SameTree scene (Desk.opened context.host scene) := onEngine_sameTree context.host.openSession scene
  cases hresult : ((Desk.onEngine context.host.openSession).runIn scene).1 with
  | error e =>
    rw [inSession_of_error hresult]
    exact hopen
  | ok _ =>
    rw [inSession_of_ok hresult]
    rw [batchInSession, Work.runIn_bind_ok hresult] at h
    have hinside := inside_sameTree context o path last s (Desk.opened context.host scene) h
    exact course_sameTree.trans (course_sameTree.trans hopen hinside) (onEngine_sameTree context.host.closeSession _)

theorem load_of_session (h : ((Desk.inSession context.host (inside context o path last s)).runIn scene).1 = .ok ()) :
    ∃ batch, ((batchInSession context o last s).runIn scene).1 = .ok batch ∧ (o.save = true → ∀ depth,
      Store.load (depth + 1)
          ((Desk.inSession context.host (inside context o path last s)).runIn scene).2.world.tree path =
        .ok (.str batch.token)) := by
  cases hresult : ((Desk.onEngine context.host.openSession).runIn scene).1 with
  | error e =>
    rw [inSession_of_error hresult] at h
    cases h
  | ok _ =>
    rw [inSession_of_ok hresult] at h ⊢
    obtain ⟨_, -, hinside⟩ := Work.bind_eq_ok.mp h
    obtain ⟨batch, hbatch, hsaved⟩ := Work.runIn_bind_eq_ok hinside
    refine ⟨batch, ?_, fun hsave depth => ?_⟩
    · rw [batchInSession, Work.runIn_bind_ok hresult]
      exact hbatch
    · have hclose := onEngine_sameTree context.host.closeSession
        ((inside context o path last s).runIn (Desk.opened context.host scene)).2
      dsimp only
      rw [hclose, inside, Work.runIn_bind_ok hbatch]
      rw [if_pos hsave] at hsaved ⊢
      exact load_saveToken context depth hsaved

theorem inside_onlyCalls {trace : W → List Mark} (h : context.host.Traced trace) :
    (inside context o path last s).Moves (OnlyCalls trace) := by
  refine (course_onlyCalls trace).bind (fetchBatch_onlyCalls context o h s last) fun batch => ?_
  split
  next => exact saveToken_onlyCalls context trace path batch.token
  next => exact (course_onlyCalls trace).pure _

theorem session_bracketed {trace : W → List Mark} (h : context.host.Traced trace) :
    Bracketed (trace scene.world.engine)
      (trace ((Desk.inSession context.host (inside context o path last s)).runIn scene).2.world.engine) := by
  cases hresult : ((Desk.onEngine context.host.openSession).runIn scene).1 with
  | error e =>
    rw [inSession_of_error hresult]
    exact .inl (h.refuses (Desk.engineScene scene) e hresult)
  | ok _ =>
    rw [inSession_of_ok hresult]
    have hopened : trace (Desk.opened context.host scene).world.engine = trace scene.world.engine ++ [.opened] :=
      h.opens _ hresult
    obtain ⟨n, hcalls⟩ := inside_onlyCalls context o path last s h (Desk.opened context.host scene)
    exact .inr ⟨n, calc
      _ = trace ((inside context o path last s).runIn (Desk.opened context.host scene)).2.world.engine ++
            [.stopped] := h.closes _
      _ = trace (Desk.opened context.host scene).world.engine ++ List.replicate n .called ++ [.stopped] :=
        congrArg (· ++ [Mark.stopped]) hcalls
      _ = trace scene.world.engine ++ .opened :: (List.replicate n .called ++ [.stopped]) := by simp [hopened]⟩

end Session

section Preparation

variable {scene : Scene (Desk W)}

/-- A fetch that cannot be prepared does not come to its end, and leaves the engine and the files as they are. -/
theorem fetch_of_unprepared {e : Failure} (h : ((beforeSession context o).runIn scene).1 = .error e) :
    ((fetch context o).runIn scene).1 ≠ .ok .done ∧ Desk.Idle scene ((fetch context o).runIn scene).2 := by
  have hstore := storePath_moves (W := W) Desk.course_idle context.place o.checkpointFile scene
  rw [fetch_eq]
  cases hpath : ((storePath context.place o.checkpointFile : Work (Desk W) FilePath).runIn scene).1 with
  | error e =>
    rw [Work.runIn_bind_error hpath]
    exact ⟨(fun hdone => nomatch hdone), hstore⟩
  | ok path =>
    rw [Work.runIn_bind_ok hpath]
    rw [beforeSession, Work.runIn_bind_ok hpath] at h
    generalize ((storePath context.place o.checkpointFile : Work (Desk W) FilePath).runIn scene).2 = found
      at hstore h ⊢
    have hprepare := preparation_moves context o Desk.course_idle path found
    cases hprepared : ((preparation context o path).runIn found).1 with
    | ok prepared =>
      rw [Work.runIn_bind_ok hprepared] at h
      cases h
    | error e =>
      have hfailed : (afterPath context o path).runIn found = _ := Work.runIn_bind_error hprepared
      rw [reporting_eq_concluded, hfailed]
      refine ⟨fun hdone => ?_, Desk.course_idle.trans hstore (Desk.course_idle.trans hprepare ?_)⟩
      · cases concluded_eq_done.mp hdone
      · exact concluded_after Desk.course_idle _ _ _

/-- A fetch that is prepared does no more after its session than to report. -/
theorem fetch_of_prepared {path : FilePath} {last : Json} {s : SourceSettings}
    (h : ((beforeSession context o).runIn scene).1 = .ok (path, last, s)) :
    (fetch context o).runIn scene =
      concluded .fetch "Fetch failed" ((Desk.inSession context.host (inside context o path last s)).runIn
        ((beforeSession context o).runIn scene).2) := by
  rw [fetch_eq]
  obtain ⟨path', hpath, hrest⟩ := Work.runIn_bind_eq_ok h
  rw [beforeSession, Work.runIn_bind_ok hpath, Work.runIn_bind_ok hpath]
  generalize ((storePath context.place o.checkpointFile : Work (Desk W) FilePath).runIn scene).2 = found at hrest ⊢
  obtain ⟨⟨last', s'⟩, hprepared, hpure⟩ := Work.runIn_bind_eq_ok hrest
  cases hpure
  have hsession : (afterPath context o path).runIn found = _ := Work.runIn_bind_ok hprepared
  rw [Work.runIn_bind_ok hprepared]
  exact (reporting_eq_concluded _ _).trans (congrArg (concluded _ _) hsession)

/-- A fetch whose batch is complete saves its token, if it is to be saved, closes the session and reports. -/
theorem fetch_of_made {path : FilePath} {last : Json} {batch : Batch Data}
    (h : ((beforeSave context o).runIn scene).1 = .ok (path, last, batch)) :
    let kept := (if o.save then saveToken context path batch.token else pure ()).runIn
      ((beforeSave context o).runIn scene).2
    let closed := (Desk.onEngine context.host.closeSession).runIn kept.2
    (fetch context o).runIn scene = concluded .fetch "Fetch failed" (closed.1 >>= fun _ => kept.1, closed.2) := by
  obtain ⟨⟨path', last', s⟩, hprepared, hsession⟩ := Work.runIn_bind_eq_ok h
  obtain ⟨batch', hbatch, hpure⟩ := Work.runIn_bind_eq_ok hsession
  cases hpure
  obtain ⟨_, hopened, hfetched⟩ := Work.runIn_bind_eq_ok hbatch
  generalize hbegun : ((beforeSession context o).runIn scene).2 = begun at hbatch hopened hfetched
  have hinside : (inside context o path last s).runIn (Desk.opened context.host begun) = _ :=
    Work.runIn_bind_ok hfetched
  have hmade : ((beforeSave context o).runIn scene).2 =
      ((fetchBatch context o s last).runIn (Desk.opened context.host begun)).2 := by
    have hsteps : (beforeSave context o).runIn scene = _ := Work.runIn_bind_ok hprepared
    have hfetch : (batchInSession context o last s).runIn begun = _ := Work.runIn_bind_ok hopened
    rw [hsteps, hbegun]
    dsimp only
    rw [Work.runIn_bind_ok hbatch, hfetch]
    rfl
  rw [fetch_of_prepared context o hprepared, hbegun, inSession_of_ok hopened, hinside, hmade]

end Preparation

end Stages

/-- Where a fetch starts, and the batch that it fetches from there with the settings that the options and the desk
give. -/
structure Fetched (context : Context W Rows Data) (o : FetchOptions) (desk : Desk W) (path : FilePath) (last : Json)
    (batch : Batch Data) : Prop where
  file : desk.pathFor o.checkpointFile context.place = .ok path
  given : ∀ checkpoint, o.checkpoint = some checkpoint → last = .str checkpoint
  stored : o.checkpoint = none → Store.load context.place.depth desk.tree path = .ok last
  batch : ∃ (s : SourceSettings) (source : Source W Rows Data) (begun opened : Scene W),
    desk.settingsFor o.conf context.place = .ok s ∧
      Source.build (context.host.platform s.commitColumn) s.checkExistence s.live sourceChannel true = .ok source ∧
      begun.world = desk.engine ∧ (context.host.openSession.runIn begun).1 = .ok () ∧
      opened.world = (context.host.openSession.runIn begun).2.world ∧
      ((source.fetch s.live last (.int o.limit)).runIn opened).1 = .ok batch

/-- What a fetch starts from cannot be told: the place of the checkpoint, the checkpoint or the settings. -/
def Desk.Refuses (desk : Desk W) (context : Context W Rows Data) (o : FetchOptions) : Prop :=
  (∃ e, desk.pathFor o.checkpointFile context.place = .error e) ∨
    (∃ path e, desk.pathFor o.checkpointFile context.place = .ok path ∧
      desk.startFor o.checkpoint context.place path = .error e) ∨
    ∃ e, desk.settingsFor o.conf context.place = .error e

section Start

variable {context : Context W Rows Data} {o : FetchOptions} {scene : Scene (Desk W)} {path : FilePath} {last : Json}

theorem fetchBatch_eq_ok {s : SourceSettings} {batch : Batch Data}
    (h : ((fetchBatch context o s last).runIn scene).1 = .ok batch) :
    ∃ (source : Source W Rows Data) (engine : Scene W),
      Source.build (context.host.platform s.commitColumn) s.checkExistence s.live sourceChannel true = .ok source ∧
        engine.world = scene.world.engine ∧
        ((source.fetch s.live last (.int o.limit)).runIn engine).1 = .ok batch := by
  obtain ⟨application, -, hserve⟩ := Work.runIn_bind_eq_ok h
  have hread := settings_moves (W := W) Desk.course_idle context.place scene
  obtain ⟨served, hserved, hbuilt⟩ := Work.runIn_when_eq_ok hserve
  have hengine : served.world.engine = scene.world.engine := by
    rcases hserved with rfl | rfl
    · exact hread.1
    · exact (Desk.course_idle.trans hread (serve_moves Desk.course_idle _ _)).1
  obtain ⟨source, hsource, hfetched⟩ := Work.runIn_bind_eq_ok hbuilt
  obtain ⟨found, hfound, hshown⟩ := Work.runIn_bind_eq_ok hfetched
  have hsame : found = batch := by
    cases hdata : found.data with
    | none =>
      rw [hdata] at hshown
      obtain ⟨_, -, hcell⟩ := Work.runIn_bind_eq_ok hshown
      obtain ⟨_, -, hdraw⟩ := Work.runIn_bind_eq_ok hcell
      obtain ⟨_, -, hlast⟩ := Work.runIn_bind_eq_ok hdraw
      exact Except.ok.inj hlast
    | some data =>
      rw [hdata] at hshown
      obtain ⟨_, -, hcell⟩ := Work.runIn_bind_eq_ok hshown
      obtain ⟨_, -, hdraw⟩ := Work.runIn_bind_eq_ok hcell
      obtain ⟨_, -, hdisplay⟩ := Work.runIn_bind_eq_ok hdraw
      obtain ⟨_, -, hlast⟩ := Work.runIn_when_eq_ok hdisplay
      exact Except.ok.inj hlast
  rw [hsame] at hfound
  exact ⟨source, Desk.engineScene served, hsource, hengine, hfound⟩

/-- A fetch that is prepared has read the checkpoint and the settings that the options and the desk give. -/
theorem beforeSession_eq_ok {s : SourceSettings}
    (h : ((beforeSession context o).runIn scene).1 = .ok (path, last, s)) :
    scene.world.pathFor o.checkpointFile context.place = .ok path ∧
      scene.world.startFor o.checkpoint context.place path = .ok last ∧
      scene.world.settingsFor o.conf context.place = .ok s := by
  obtain ⟨path', hpath, hrest⟩ := Work.runIn_bind_eq_ok h
  obtain ⟨⟨last', s'⟩, hread, hpure⟩ := Work.runIn_bind_eq_ok hrest
  cases hpure
  obtain ⟨last', hstart, hsay⟩ := Work.runIn_bind_eq_ok hread
  obtain ⟨_, -, hsettings⟩ := Work.runIn_bind_eq_ok hsay
  obtain ⟨s', hsource, hpure⟩ := Work.runIn_bind_eq_ok hsettings
  cases hpure
  obtain ⟨hpathFor, hfirst⟩ := Desk.storePath_takes scene o.checkpointFile scene rfl
  obtain ⟨hstartFor, hsecond⟩ := Desk.startingPoint_takes scene o.checkpoint path _ hfirst
  obtain ⟨hsettingsFor, -⟩ := Desk.sourceSettings_takes o.conf scene _ ((Desk.say_keeps _ _).trans hsecond)
  exact ⟨hpathFor.symm.trans hpath, hstartFor.symm.trans hstart, hsettingsFor.symm.trans hsource⟩

/-- Where the start is refused, the fetch is not prepared. -/
theorem beforeSession_of_refuses (h : scene.world.Refuses context o) :
    ∃ e, ((beforeSession context o).runIn scene).1 = .error e := by
  cases hprepared : ((beforeSession context o).runIn scene).1 with
  | error e => exact ⟨e, rfl⟩
  | ok prepared =>
    obtain ⟨path, last, s⟩ := prepared
    obtain ⟨hpath, hstart, hsettings⟩ := beforeSession_eq_ok hprepared
    rcases h with ⟨e, he⟩ | ⟨path', e, hpath', he⟩ | ⟨e, he⟩
    · cases hpath.symm.trans he
    · cases hpath.symm.trans hpath'
      cases hstart.symm.trans he
    · cases hsettings.symm.trans he

theorem fetched_of_beforeSave {batch : Batch Data}
    (h : ((beforeSave context o).runIn scene).1 = .ok (path, last, batch)) :
    Fetched context o scene.world path last batch := by
  obtain ⟨⟨path', last', s⟩, hprepared, hsession⟩ := Work.runIn_bind_eq_ok h
  obtain ⟨batch', hbatch, hpure⟩ := Work.runIn_bind_eq_ok hsession
  cases hpure
  obtain ⟨hpath, hstart, hsettings⟩ := beforeSession_eq_ok hprepared
  obtain ⟨_, hopened, hfetched⟩ := Work.runIn_bind_eq_ok hbatch
  obtain ⟨source, opened, hbuild, hengine, hfetch⟩ := fetchBatch_eq_ok hfetched
  have hidle := beforeSession_moves context o Desk.course_idle scene
  refine ⟨hpath, ?_, ?_, s, source, Desk.engineScene _, opened, hsettings, hbuild, hidle.1, hopened, hengine, hfetch⟩
  · intro checkpoint hcheckpoint
    rw [hcheckpoint] at hstart
    exact (Except.ok.inj hstart).symm
  · intro hnone
    rw [hnone] at hstart
    exact hstart

end Start

section Runs

variable {context : Context W Rows Data} {o : FetchOptions} {scene : Scene (Desk W)}

/-- The files stay as they are if nothing is saved, and until the batch is complete. -/
theorem fetch_sameTree (h : o.save = false ∨ ∃ e, ((beforeSave context o).runIn scene).1 = .error e) :
    SameTree scene ((fetch context o).runIn scene).2 := by
  cases hprepared : ((beforeSession context o).runIn scene).1 with
  | error e => exact (fetch_of_unprepared context o hprepared).2.2
  | ok prepared =>
    obtain ⟨path, last, s⟩ := prepared
    have hbefore := beforeSession_moves context o course_sameTree scene
    have hinside : o.save = false ∨ ∃ e,
        ((batchInSession context o last s).runIn ((beforeSession context o).runIn scene).2).1 = .error e := by
      refine h.imp_right fun ⟨e, he⟩ => ?_
      rw [beforeSave, Work.runIn_bind_ok hprepared] at he
      cases hbatch : ((batchInSession context o last s).runIn ((beforeSession context o).runIn scene).2).1 with
      | error e => exact ⟨e, rfl⟩
      | ok batch =>
        rw [Work.runIn_bind_ok hbatch] at he
        cases he
    have hsession := session_sameTree context o path last s _ hinside
    rw [fetch_of_prepared context o hprepared]
    exact course_sameTree.trans hbefore (course_sameTree.trans hsession (concluded_after course_sameTree _ _ _))

/-- A fetch that comes to its end has a batch, and has saved its token if it was to save it. -/
theorem load_of_fetch (h : ((fetch context o).runIn scene).1 = .ok .done) :
    ∃ path last batch, ((beforeSave context o).runIn scene).1 = .ok (path, last, batch) ∧ (o.save = true →
      ∀ depth, Store.load (depth + 1) ((fetch context o).runIn scene).2.world.tree path = .ok (.str batch.token)) := by
  cases hprepared : ((beforeSession context o).runIn scene).1 with
  | error e => exact absurd h (fetch_of_unprepared context o hprepared).1
  | ok prepared =>
    obtain ⟨path, last, s⟩ := prepared
    rw [fetch_of_prepared context o hprepared] at h ⊢
    obtain ⟨batch, hbatch, hload⟩ := load_of_session context o path last s _ (concluded_eq_done.mp h)
    refine ⟨path, last, batch, ?_, fun hsave depth => ?_⟩
    · rw [beforeSave, Work.runIn_bind_ok hprepared, Work.runIn_bind_ok hbatch]
      rfl
    · rw [concluded_after course_sameTree _ _]
      exact hload hsave depth

theorem fetch_bracketed {trace : W → List Mark} (h : context.host.Traced trace) :
    Bracketed (trace scene.world.engine) (trace ((fetch context o).runIn scene).2.world.engine) := by
  cases hprepared : ((beforeSession context o).runIn scene).1 with
  | error e => exact .inl (congrArg trace (fetch_of_unprepared context o hprepared).2.1)
  | ok prepared =>
    obtain ⟨path, last, s⟩ := prepared
    have hbefore := beforeSession_moves context o Desk.course_idle scene
    have hsession := session_bracketed context o path last s ((beforeSession context o).runIn scene).2 h
    rw [hbefore.1] at hsession
    rw [fetch_of_prepared context o hprepared, (concluded_after Desk.course_idle _ _ _).1]
    exact hsession

end Runs

/-- Fetches that come to their end and save, one after the other, over a checkpoint that nothing else changes. Each
link is where a fetch starts and the token that it saves. -/
inductive Relay (W Rows Data : Type) (path : FilePath) : FileTree → List (Json × String) → Prop
  | done (tree : FileTree) : Relay W Rows Data path tree []
  | fetch {tree : FileTree} {context : Context W Rows Data} {o : FetchOptions} {scene : Scene (Desk W)} {last : Json}
      {batch : Batch Data} {links : List (Json × String)} (hsave : o.save = true) (hcheckpoint : o.checkpoint = none)
      (hdepth : 0 < context.place.depth)
      (hsame : ∀ depth, Store.load depth scene.world.tree path = Store.load depth tree path)
      (hbatch : ((beforeSave context o).runIn scene).1 = .ok (path, last, batch))
      (hdone : ((fetch context o).runIn scene).1 = .ok .done)
      (hrest : Relay W Rows Data path ((fetch context o).runIn scene).2.world.tree links) :
      Relay W Rows Data path tree ((last, batch.token) :: links)

/-- Each fetch of a relay starts from the token that the one before it saved, and the first from what was stored. -/
theorem Relay.starts {path : FilePath} {tree : FileTree} {links : List (Json × String)}
    (h : Relay W Rows Data path tree links) :
    (∀ link ∈ links.head?, ∃ depth, Store.load (depth + 1) tree path = .ok link.1) ∧
      links.IsChain fun earlier later => later.1 = .str earlier.2 := by
  induction h with
  | done tree => exact ⟨(fun _ h => nomatch h), .nil⟩
  | @fetch tree context o scene last batch links hsave hcheckpoint hdepth hsame hbatch hdone hrest ih =>
    obtain ⟨hfirst, hchain⟩ := ih
    obtain ⟨_, _, _, hsaved, hload⟩ := load_of_fetch hdone
    cases hbatch.symm.trans hsaved
    refine ⟨?_, hchain.cons fun link hlink => ?_⟩
    · rintro link hlink
      obtain rfl := Option.some.inj hlink
      obtain ⟨depth, hplace⟩ := Nat.exists_eq_add_one.mpr hdepth
      have hstored := (fetched_of_beforeSave hbatch).stored hcheckpoint
      rw [hplace] at hstored
      exact ⟨depth, (hsame _).symm.trans hstored⟩
    · -- The next fetch loads what this one saved.
      obtain ⟨depth, hnext⟩ := hfirst link hlink
      exact (Except.ok.inj ((hload hsave depth).symm.trans hnext)).symm

/-- The stored checkpoint moves only after a complete fetch. The fetch starts from the checkpoint that is given, or
else from the stored one. If nothing is to be saved, or the fetch fails before that, all files stay as they are. With a
complete batch it saves the token if it is to be saved, closes its session, and has come to its end if both succeed. The
token of the batch is loaded from then on. A session that is opened is stopped once, after all calls on it, and none is
opened where the stored checkpoint or the configuration is refused. Therefore fetches that save, one after the other,
start where the one before ended. -/
theorem fetch_saves_complete_batch {context : Context W Rows Data} {trace : W → List Mark}
    (h : context.host.Traced trace) (o : FetchOptions) (scene : Scene (Desk W)) :
    let run := (fetch context o).runIn scene
    let made := (beforeSave context o).runIn scene
    (∀ path last b, made.1 = .ok (path, last, b) → Fetched context o scene.world path last b ∧
      let kept := (if o.save then saveToken context path b.token else pure ()).runIn made.2
      let closed := (Desk.onEngine context.host.closeSession).runIn kept.2
      (kept.1 = .ok () → closed.1 = .ok () → run = (.ok .done, closed.2)) ∧
      ((∃ e, kept.1 = .error e) ∨ (∃ e, closed.1 = .error e) → run.1 ≠ .ok .done)) ∧
      ((∃ e, made.1 = .error e) → run.1 ≠ .ok .done) ∧
      ((o.save = false ∨ ∃ e, made.1 = .error e) → run.2.world.tree = scene.world.tree) ∧
      (run.1 = .ok .done → ∃ path last b, made.1 = .ok (path, last, b) ∧
        (o.save = true → ∀ depth, Store.load (depth + 1) run.2.world.tree path = .ok (.str b.token))) ∧
      Bracketed (trace scene.world.engine) (trace run.2.world.engine) ∧
      (scene.world.Refuses context o → run.1 ≠ .ok .done ∧ run.2.world.engine = scene.world.engine) ∧
      ∀ path tree links, Relay W Rows Data path tree links →
        (∀ link ∈ links.head?, ∃ depth, Store.load (depth + 1) tree path = .ok link.1) ∧
          links.IsChain fun earlier later => later.1 = .str earlier.2 := by
  intro run made
  have hended : run.1 = .ok .done → ∃ path last b, made.1 = .ok (path, last, b) ∧
      (o.save = true → ∀ depth, Store.load (depth + 1) run.2.world.tree path = .ok (.str b.token)) := load_of_fetch
  refine ⟨fun path last b hmade => ⟨fetched_of_beforeSave hmade, ?_⟩, ?_, fetch_sameTree, hended, fetch_bracketed h, ?_,
    fun path tree links => Relay.starts⟩
  · have hrun := fetch_of_made context o hmade
    intro kept closed
    change run = concluded .fetch "Fetch failed" (closed.1 >>= fun _ => kept.1, closed.2) at hrun
    refine ⟨fun hkept hclosed => ?_, fun hfails hdone => ?_⟩
    · rw [hrun, hclosed, hkept]
      rfl
    · rw [hrun] at hdone
      obtain ⟨_, hclosed, hkept⟩ := Work.bind_eq_ok.mp (concluded_eq_done.mp hdone)
      rcases hfails with ⟨e, he⟩ | ⟨e, he⟩
      · cases hkept.symm.trans he
      · cases hclosed.symm.trans he
  · rintro ⟨e, he⟩ hdone
    obtain ⟨path, last, b, hok, -⟩ := hended hdone
    cases hok.symm.trans he
  · intro hrefuses
    obtain ⟨e, he⟩ := beforeSession_of_refuses hrefuses
    obtain ⟨hdone, hidle⟩ := fetch_of_unprepared context o he
    exact ⟨hdone, hidle.1⟩

/-- A lake with one table, whose last version brought an object and a row without a key. -/
def oneTableLake (version : Int) (key : String) : Lakehouse.Engine where
  tables := [("lake", {
    history := .ok [⟨version, "now", "WRITE", none⟩]
    changes :=
      [⟨version, ⟨some "landing", some key, .whole 3⟩, "insert"⟩, ⟨version, ⟨some "landing", none, .whole 5⟩, "insert"⟩]
    commitColumn := none })]

def lakeContext : Context Lakehouse.Engine Lakehouse.Frame Dataset.Table := ⟨Lakehouse.host, ⟨[], none, 9⟩, "now"⟩

/-- All is read where nothing is stored, and two rows are shown. -/
def lakeOptions : FetchOptions where
  conf := ["base.path=lake", "missing.checkpoint.strategy=READ_UPTO_LATEST_COMMIT"]
  checkpointFile := some "state.json"
  shownRows := 2

/-- The scene before a fetch, and before the one after it. -/
def firstScene : Scene (Desk Lakehouse.Engine) := Scene.start { engine := oneTableLake 0 "in/a.parquet", tree := {} }

def secondScene : Scene (Desk Lakehouse.Engine) :=
  Scene.start
    { engine := oneTableLake 1 "in/b.parquet", tree := ((fetch lakeContext lakeOptions).runIn firstScene).2.world.tree }

/-- What comes of a fetch, the token of its batch, and the files that it loads. -/
def digest (scene : Scene (Desk Lakehouse.Engine)) : Option Exit × Option String × List (List String) :=
  let run := (fetch lakeContext lakeOptions).runIn scene
  (run.1.toOption, ((beforeSave lakeContext lakeOptions).runIn scene).1.toOption.map (·.2.2.token),
    run.2.world.engine.calls.filterMap fun c => match c with | .loadFiles paths => some paths | _ => none)

theorem digest_firstScene : digest firstScene = (some .done, some "0", [["s3://landing/in/a.parquet"]]) := by
  decide +kernel

theorem digest_secondScene : digest secondScene = (some .done, some "1", [["s3://landing/in/b.parquet"]]) := by
  decide +kernel

/-- Both fetches come to their end and save, the second from where the first ended. Each session is stopped once. -/
theorem fetch_saves_complete_batch_twoVersions :
    lakeContext.host.Traced Lakehouse.Engine.trace ∧
      let first := (fetch lakeContext lakeOptions).runIn firstScene
      let second := (fetch lakeContext lakeOptions).runIn secondScene
      let path := FilePath.ofText "state.json"
      (first.1 = .ok .done ∧ second.1 = .ok .done) ∧
        (∀ depth, Store.load (depth + 1) first.2.world.tree path = .ok (.str "0") ∧
          Store.load (depth + 1) second.2.world.tree path = .ok (.str "1")) ∧
        Relay Lakehouse.Engine Lakehouse.Frame Dataset.Table path {} [(.null, "0"), (.str "0", "1")] ∧
        (∃ n, first.2.world.engine.trace = .opened :: (List.replicate n .called ++ [.stopped])) ∧
        ∃ n, second.2.world.engine.trace = .opened :: (List.replicate n .called ++ [.stopped]) := by
  have hhost : lakeContext.host.Traced Lakehouse.Engine.trace := Lakehouse.host_traced
  have hpath (scene : Scene (Desk Lakehouse.Engine)) :
      scene.world.pathFor lakeOptions.checkpointFile lakeContext.place = .ok (FilePath.ofText "state.json") := rfl
  -- Each of the fetches comes to its end with a batch whose token it saves.
  have hends (scene : Scene (Desk Lakehouse.Engine)) {token : String} {paths : List String}
      (hnew : scene.world.engine.calls = []) (hdigest : digest scene = (some .done, some token, [paths])) :
      ∃ last batch, batch.token = token ∧
        ((beforeSave lakeContext lakeOptions).runIn scene).1 = .ok (FilePath.ofText "state.json", last, batch) ∧
        ((fetch lakeContext lakeOptions).runIn scene).1 = .ok .done ∧
        (∀ depth, Store.load (depth + 1) ((fetch lakeContext lakeOptions).runIn scene).2.world.tree
          (FilePath.ofText "state.json") = .ok (.str token)) ∧
        ∃ n, ((fetch lakeContext lakeOptions).runIn scene).2.world.engine.trace =
          .opened :: (List.replicate n .called ++ [.stopped]) := by
    obtain ⟨hmade, -, -, hended, hbracketed, -⟩ := fetch_saves_complete_batch hhost lakeOptions scene
    have hdone := Work.eq_ok_of_toOption (congrArg Prod.fst hdigest)
    obtain ⟨path, last, batch, hok, hload⟩ := hended hdone
    have htoken : some batch.token = some token := by
      have hsecond := congrArg (·.2.1) hdigest
      dsimp only [digest] at hsecond
      rw [hok] at hsecond
      exact hsecond
    obtain rfl := Option.some.inj htoken
    obtain rfl := Except.ok.inj ((hpath scene).symm.trans (hmade path last batch hok).1.file)
    refine ⟨last, batch, rfl, hok, hdone, hload rfl, ?_⟩
    have hbefore : scene.world.engine.trace = [] := by rw [Lakehouse.Engine.trace, hnew, List.map_nil]
    rw [hbefore] at hbracketed
    rcases hbracketed with hsame | hsession
    · -- The files were loaded, so there was a session.
      have hloads := congrArg (·.2.2) hdigest
      dsimp only [digest] at hloads
      rw [List.map_eq_nil_iff.mp hsame] at hloads
      cases hloads
    · exact hsession
  obtain ⟨last, batch, htoken, hmade, hdone, hload, hsession⟩ := hends firstScene rfl digest_firstScene
  obtain ⟨next, other, hother, hmadeNext, hdoneNext, hloadNext, hsessionNext⟩ :=
    hends secondScene rfl digest_secondScene
  have hdepth : 0 < lakeContext.place.depth := by decide
  have hsecond : Relay Lakehouse.Engine Lakehouse.Frame Dataset.Table (FilePath.ofText "state.json")
      secondScene.world.tree [(next, other.token)] :=
    .fetch rfl rfl hdepth (fun _ => rfl) hmadeNext hdoneNext (.done _)
  have hrelay : Relay Lakehouse.Engine Lakehouse.Frame Dataset.Table (FilePath.ofText "state.json") {}
      [(last, batch.token), (next, other.token)] :=
    .fetch rfl rfl hdepth (fun _ => rfl) hmade hdone hsecond
  obtain ⟨-, -, -, -, -, -, hstarts⟩ := fetch_saves_complete_batch hhost lakeOptions firstScene
  obtain ⟨hfirst, hchain⟩ := hstarts _ _ _ hrelay
  obtain ⟨depth, hlast⟩ := hfirst _ rfl
  obtain rfl : last = .null := (Except.ok.inj hlast).symm
  obtain rfl : next = .str batch.token := (List.isChain_cons_cons.mp hchain).1
  rw [htoken, hother] at hrelay
  exact ⟨hhost, ⟨hdone, hdoneNext⟩, fun depth => ⟨hload depth, hloadNext depth⟩, hrelay, hsession, hsessionNext⟩

end ObjectIntake.Command
