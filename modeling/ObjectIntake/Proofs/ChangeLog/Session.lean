import ObjectIntake.ChangeLog.Lakehouse
import ObjectIntake.Proofs.Fetch.Moves

/-!
What can be seen of a session from outside: that it is opened, called and stopped. The platform and the other work
on an engine do no more than call.
-/
namespace ObjectIntake
open Event ObjectPath Dataset

/-- What an engine is asked for. -/
inductive Mark where
  | opened
  | called
  | stopped
  deriving DecidableEq

section Traces

variable {W Rows Data : Type} (trace : W → List Mark)

/-- Between two scenes the engine is only called. -/
def Scene.Calls (before after : Scene W) : Prop :=
  ∃ n, trace after.world = trace before.world ++ List.replicate n .called

variable {trace} in
theorem Scene.Calls.of_trace_eq {before after : Scene W} (h : trace after.world = trace before.world) :
    Scene.Calls trace before after := ⟨0, by simp [h]⟩

theorem Scene.course_calls : Scene.Course (Scene.Calls trace) where
  writes _ _ := .of_trace_eq rfl
  trans := by
    rintro a b c ⟨m, hm⟩ ⟨n, hn⟩
    refine ⟨m + n, ?_⟩
    rw [hn, hm, List.append_assoc, List.replicate_append_replicate]

/-- What a session adds to a trace, if one is opened: it is stopped once, and nothing comes after that. -/
def Bracketed (before after : List Mark) : Prop :=
  after = before ∨ ∃ n, after = before ++ .opened :: (List.replicate n .called ++ [.stopped])

/-- No work in a session leads out of the relation. -/
structure Host.Moves (R : Scene W → Scene W → Prop) (host : Host W Rows Data) : Prop where
  platform : ∀ commitColumn, (host.platform commitColumn).Moves R
  countRows : ∀ data, (host.countRows data).Moves R
  display : ∀ data rows, (host.display data rows).Moves R

theorem Host.moves_true (host : Host W Rows Data) : host.Moves fun _ _ => True where
  platform _ :=
    { versions := fun _ _ => trivial
      read := fun _ _ _ _ => trivial
      isEmpty := fun _ _ => trivial
      references := fun _ _ _ => trivial
      noteProbes := fun _ _ => trivial
      load := fun _ _ _ _ => trivial
      derive := fun _ _ _ => trivial }
  countRows _ _ := trivial
  display _ _ _ := trivial

/-- The trace of an engine says when its session is opened and stopped, and all else that it does is a call. -/
structure Host.Traced (host : Host W Rows Data) (trace : W → List Mark) : Prop where
  opens : ∀ scene, (host.openSession.runIn scene).1 = .ok () →
    trace (host.openSession.runIn scene).2.world = trace scene.world ++ [.opened]
  refuses : ∀ scene e, (host.openSession.runIn scene).1 = .error e →
    trace (host.openSession.runIn scene).2.world = trace scene.world
  closes : ∀ scene, trace (host.closeSession.runIn scene).2.world = trace scene.world ++ [.stopped]
  calls : host.Moves (Scene.Calls trace)

end Traces

namespace Lakehouse

def Call.mark : Call → Mark
  | .openSession => .opened
  | .stop => .stopped
  | _ => .called

def Engine.trace (e : Engine) : List Mark := e.calls.map Call.mark

/-- The engine is only called. -/
abbrev Calls : Scene Engine → Scene Engine → Prop := Scene.Calls Engine.trace

theorem course_calls : Scene.Course Calls := Scene.course_calls Engine.trace

/-- A relation of scenes that lets the engine be called and lets it take notes. -/
structure Working (R : Scene Engine → Scene Engine → Prop) : Prop extends Scene.Course R where
  calls : ∀ cs : List Call, (∀ c ∈ cs, c.mark = .called) → (callAll cs).Moves R
  notes : ∀ f : Engine → Engine, (∀ e, (f e).trace = e.trace) → (Work.change f).Moves R

theorem working_calls : Working Calls where
  toCourse := course_calls
  calls cs h := by
    intro scene
    refine ⟨cs.length, ?_⟩
    have hcalled : cs.map Call.mark = List.replicate cs.length .called := by
      refine List.eq_replicate_iff.mpr ⟨List.length_map .., fun m hm => ?_⟩
      obtain ⟨c, hc, rfl⟩ := List.mem_map.mp hm
      exact h c hc
    rw [← hcalled]
    exact List.map_append
  notes f h := fun scene => .of_trace_eq (h scene.world)

namespace Working

variable {R : Scene Engine → Scene Engine → Prop} (hR : Working R)
include hR

theorem call {c : Call} (h : c.mark = .called) : (Lakehouse.call c).Moves R :=
  hR.calls [c] (List.forall_mem_singleton.mpr h)

theorem findTable (path : String) : (Lakehouse.findTable path).Moves R := by
  refine hR.bind (hR.call rfl) fun _ => hR.bind hR.world fun engine => ?_
  split
  next => exact hR.pure _
  next => exact hR.throw _

theorem heldTable (path : String) : (Lakehouse.heldTable path).Moves R := by
  refine hR.bind hR.world fun engine => ?_
  split
  next => exact hR.pure _
  next =>
    exact hR.bind (hR.findTable path) fun _ => hR.bind (hR.notes _ fun _ => rfl) fun _ => hR.pure _

theorem trackedTable (path : String) : (Lakehouse.trackedTable path).Moves R := by
  refine hR.bind hR.world fun engine => ?_
  refine Work.Moves.branch (hR.heldTable path) fun hrest => hR.bind (hR.log _ _ _) fun _ =>
    hR.bind (hR.notes _ fun _ => rfl) fun _ => hrest

theorem historyOf (handle : Handle) : (Lakehouse.historyOf handle).Moves R := by
  refine hR.bind (hR.call rfl) fun _ => hR.bind hR.world fun engine => ?_
  split
  next => exact hR.bind (hR.calls _ (by simp [Call.mark])) fun _ => hR.pure _
  next => exact hR.throw _

theorem loadTable (path : String) : (Lakehouse.loadTable path).Moves R := by
  refine hR.bind (hR.call rfl) fun _ => hR.bind hR.world fun engine => ?_
  split
  next => exact hR.pure _
  next => exact hR.throw _

theorem filter (f : Frame) (condition : Condition) : (Lakehouse.filter f condition).Moves R :=
  hR.bind (hR.call rfl) fun _ => hR.ofExcept _

theorem read (commitColumn : String) (mode : ReadMode) (path : String) (range : VersionRange) :
    (Lakehouse.read commitColumn mode path range).Moves R := by
  cases mode with
  | incremental =>
    refine hR.bind (hR.tell _ _ _) fun _ => hR.bind (hR.calls _ ?_) fun _ =>
      hR.bind (hR.loadTable path) fun table => hR.filter _ _
    simp [Call.mark]
  | snapshot =>
    refine hR.bind (hR.tell _ _ _) fun _ => hR.bind (hR.calls _ ?_) fun _ =>
      hR.bind (hR.loadTable path) fun table => ?_
    · simp [Call.mark]
    · dsimp only
      split
      next => exact hR.pure _
      next => exact hR.tryCatch (hR.filter _ _) fun _ => hR.throw _

theorem load (fileFormat : String) (options : Keyed Json) (paths : List String) :
    (Lakehouse.load fileFormat options paths).Moves R := by
  refine hR.bind (hR.call rfl) fun _ => ?_
  refine Work.Moves.branch ?_ fun _ => hR.throw_bind _ _
  refine Work.Moves.branch ?_ fun hrest => hR.bind (hR.call rfl) fun _ => hrest
  exact hR.bind (hR.call rfl) fun _ => hR.bind hR.world fun _ => hR.pure _

theorem platform (commitColumn : String) : (Lakehouse.platform commitColumn).Moves R where
  versions path :=
    hR.bind (hR.trackedTable path) fun handle => hR.bind (hR.historyOf handle) fun _ => hR.pure _
  read := hR.read commitColumn
  isEmpty _ := hR.bind (hR.call rfl) fun _ => hR.pure _
  references predicate f :=
    hR.bind (hR.filter f _) fun _ => hR.bind (hR.calls _ (by simp [Call.mark])) fun _ => hR.pure _
  noteProbes paths := hR.notes ((Lakehouse.platform commitColumn).noteProbes paths) fun _ => rfl
  load := hR.load
  derive _ _ := hR.bind (hR.call rfl) fun _ => hR.pure _

end Working

theorem host_traced : host.Traced Engine.trace where
  opens _ _ := List.map_append
  refuses _ _ h := by cases h
  closes _ := List.map_append
  calls := {
    platform := working_calls.platform
    countRows := fun _ => working_calls.bind (working_calls.call rfl) fun _ => working_calls.pure _
    display := fun _ _ => working_calls.call rfl }

end Lakehouse
end ObjectIntake
