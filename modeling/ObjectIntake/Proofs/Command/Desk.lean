import ObjectIntake.Command.Action
import ObjectIntake.Proofs.Work.Moves

/-!
What the parts of a command may do to the desk. Most of them only print, warn and read settings; the engine and the
tree of files are reached by few.
-/
namespace ObjectIntake.Command
open Settings

variable {W Rows Data α : Type} {R : Scene (Desk W) → Scene (Desk W) → Prop}

/-- A relation that allows all that leaves the engine and the tree as they are. -/
structure Desk.Course (R : Scene (Desk W) → Scene (Desk W) → Prop) : Prop extends Scene.Course R where
  desk : ∀ (scene : Scene (Desk W)) (d : Desk W), d.engine = scene.world.engine → d.tree = scene.world.tree →
    R scene { scene with world := d }

/-- Neither the engine nor the tree changes. -/
def Desk.Idle (before after : Scene (Desk W)) : Prop :=
  after.world.engine = before.world.engine ∧ after.world.tree = before.world.tree

theorem Desk.course_idle : Desk.Course (Desk.Idle (W := W)) where
  writes _ _ := ⟨rfl, rfl⟩
  trans hab hbc := ⟨hbc.1.trans hab.1, hbc.2.trans hab.2⟩
  desk _ _ hengine htree := ⟨hengine, htree⟩

/-- What the engine sees of a scene. -/
def Desk.engineScene (scene : Scene (Desk W)) : Scene W :=
  ⟨scene.world.engine, scene.journal, scene.registry, scene.elapsed⟩

theorem onEngine_runIn (work : Work W α) (scene : Scene (Desk W)) :
    ((Desk.onEngine work).runIn scene).1 = (work.runIn (Desk.engineScene scene)).1 ∧
      Desk.engineScene ((Desk.onEngine work).runIn scene).2 = (work.runIn (Desk.engineScene scene)).2 ∧
      ((Desk.onEngine work).runIn scene).2.world.tree = scene.world.tree := ⟨rfl, rfl, rfl⟩

section Reports

variable {v : Verb} {what : String} {work : Work (Desk W) Unit} {scene : Scene (Desk W)}

/-- What a command does about a failure. -/
def report (v : Verb) (what : String) (failure : Failure) : Work (Desk W) Exit :=
  match failure with
  | .malformedOption _ => return .misused (.verb v) (.malformed failure.message)
  | failure =>
      if failure.isReported then do
        Desk.say ("[red]✗ " ++ what ++ ": " ++ failure.message ++ "[/red]")
        return .aborted
      else throw failure

theorem reporting_of_ok (h : (work.runIn scene).1 = .ok ()) :
    (reporting v what work).runIn scene = (.ok .done, (work.runIn scene).2) := by
  have hdone : (do work; return Exit.done : Work (Desk W) Exit).runIn scene = (.ok .done, (work.runIn scene).2) :=
    Work.runIn_bind_ok h
  have hcaught : (reporting v what work).runIn scene = _ := Work.runIn_catch_ok (congrArg Prod.fst hdone)
  rw [hcaught, hdone]

theorem reporting_of_error {e : Failure} (h : (work.runIn scene).1 = .error e) :
    (reporting v what work).runIn scene = (report v what e).runIn (work.runIn scene).2 := by
  have hfailed : (do work; return Exit.done : Work (Desk W) Exit).runIn scene = (.error e, (work.runIn scene).2) :=
    Work.runIn_bind_error h
  have hcaught : (reporting v what work).runIn scene = _ := Work.runIn_catch_error (congrArg Prod.fst hfailed)
  rw [hcaught, hfailed]
  rfl

/-- A failure that is reported ends a command with a code that is not that of success. -/
theorem report_ne_done (failure : Failure) (scene : Scene (Desk W)) :
    ((report v what failure).runIn scene).1 ≠ .ok .done := by
  unfold report
  split
  next => exact fun h => absurd (congrArg Exit.code (Except.ok.inj h)) (by simp [Exit.misused, Exit.done])
  next =>
    split
    next =>
      cases hsay : ((Desk.say ("[red]✗ " ++ what ++ ": " ++ failure.message ++ "[/red]") : Work (Desk W) Unit).runIn
          scene).1 with
      | ok _ =>
        rw [Work.runIn_bind_ok hsay]
        exact fun h => absurd (congrArg Exit.code (Except.ok.inj h)) (by simp [Exit.aborted, Exit.done])
      | error e =>
        rw [Work.runIn_bind_error hsay]
        exact fun h => nomatch h
    next => exact fun h => nomatch h

/-- How a command ends after its work: a failure is reported. -/
def concluded (v : Verb) (what : String) (done : Except Failure Unit × Scene (Desk W)) :
    Except Failure Exit × Scene (Desk W) :=
  match done.1 with
  | .ok _ => (.ok .done, done.2)
  | .error e => (report v what e).runIn done.2

theorem reporting_eq_concluded (work : Work (Desk W) Unit) (scene : Scene (Desk W)) :
    (reporting v what work).runIn scene = concluded v what (work.runIn scene) := by
  unfold concluded
  cases hresult : (work.runIn scene).1 with
  | ok _ => exact reporting_of_ok hresult
  | error e => exact reporting_of_error hresult

/-- A command comes to its end exactly if its work succeeds. -/
theorem concluded_eq_done {done : Except Failure Unit × Scene (Desk W)} :
    (concluded v what done).1 = .ok .done ↔ done.1 = .ok () := by
  unfold concluded
  cases hresult : done.1 with
  | ok _ => exact iff_of_true rfl rfl
  | error e => exact iff_of_false (report_ne_done e _) (by simp)

end Reports

section Parts

variable (hR : Desk.Course R)
include hR

theorem change_moves {f : Desk W → Desk W} (h : ∀ d, (f d).engine = d.engine ∧ (f d).tree = d.tree) :
    (Work.change f).Moves R := fun scene => hR.desk scene _ (h _).1 (h _).2

theorem print_moves (text : String) : (Desk.print text : Work (Desk W) Unit).Moves R :=
  change_moves hR fun _ => ⟨rfl, rfl⟩

theorem say_moves (text : String) : (Desk.say text : Work (Desk W) Unit).Moves R :=
  hR.bind (hR.ofExcept _) fun _ => print_moves hR _

theorem draw_moves (grid : Console.Grid) : (Desk.draw grid : Work (Desk W) Unit).Moves R :=
  hR.bind (hR.ofExcept _) fun _ => print_moves hR _

theorem serve_moves (port : Int) : (Desk.serve port : Work (Desk W) Unit).Moves R :=
  change_moves hR fun _ => ⟨rfl, rfl⟩

theorem warn_moves (message : String) : (Desk.warn message : Work (Desk W) Unit).Moves R := by
  refine hR.bind hR.world fun d => ?_
  split
  next => exact change_moves hR fun _ => ⟨rfl, rfl⟩
  next => exact hR.log _ _ _

theorem noteReadings_moves (around : Surroundings) (times : Nat) :
    (Desk.noteReadings around times : Work (Desk W) Unit).Moves R := by
  refine hR.bind (hR.forIn (fun _ _ => ?_) _) fun _ => hR.pure _
  refine hR.bind (hR.forIn (fun _ _ => ?_) _) fun _ => hR.pure _
  exact hR.bind (warn_moves hR _) fun _ => hR.pure _

theorem settings_moves (d : Deployment) : (Desk.settings d : Work (Desk W) _).Moves R := by
  refine hR.bind hR.world fun desk => ?_
  split
  next => exact hR.pure _
  next =>
    exact hR.bind (hR.ofExcept _) fun around => hR.bind (noteReadings_moves hR _ _) fun _ =>
      hR.bind (hR.ofExcept _) fun _ => hR.bind (change_moves hR fun _ => ⟨rfl, rfl⟩) fun _ => hR.pure _

theorem sourceSettings_moves (items : List String) (d : Deployment) :
    (Desk.sourceSettings items d : Work (Desk W) _).Moves R := by
  refine hR.bind (hR.ofExcept _) fun given => ?_
  split
  next => exact hR.bind (settings_moves hR d) fun _ => hR.pure _
  next =>
    exact hR.bind (hR.ofExcept _) fun _ => hR.bind (hR.ofExcept _) fun _ =>
      hR.bind (noteReadings_moves hR _ _) fun _ => hR.ofExcept _

theorem storePath_moves (d : Deployment) (given : Option String) :
    (storePath d given : Work (Desk W) _).Moves R := by
  have hsettings : (storePath.ofSettings d : Work (Desk W) _).Moves R :=
    hR.bind (settings_moves hR d) fun _ => hR.pure _
  unfold storePath
  split
  next =>
    split
    next => exact hsettings
    next => exact hR.pure _
  next => exact hsettings

theorem startingPoint_moves (depth : Nat) (path : FilePath) (given : Option String) :
    (startingPoint depth path given : Work (Desk W) _).Moves R := by
  unfold startingPoint
  split
  next => exact hR.pure _
  next => exact hR.bind hR.world fun _ => hR.ofExcept _

/-- What is done about a failure only prints. -/
theorem report_moves (v : Verb) (what : String) (failure : Failure) :
    (report v what failure : Work (Desk W) Exit).Moves R := by
  unfold report
  split
  next => exact hR.pure _
  next =>
    split
    next => exact hR.bind (say_moves hR _) fun _ => hR.pure _
    next => exact hR.throw _

theorem concluded_after (v : Verb) (what : String) (done : Except Failure Unit × Scene (Desk W)) :
    R done.2 (concluded v what done).2 := by
  unfold concluded
  cases done.1 with
  | ok _ => exact hR.refl _
  | error e => exact report_moves hR v what e _

end Parts

section Sessions

variable {host : Host W Rows Data} {work : Work (Desk W) Unit} {scene : Scene (Desk W)}

/-- The scene in which a session is open. -/
def Desk.opened (host : Host W Rows Data) (scene : Scene (Desk W)) : Scene (Desk W) :=
  ((Desk.onEngine host.openSession).runIn scene).2

/-- Without a session nothing is done in it. -/
theorem inSession_of_error {e : Failure} (h : ((Desk.onEngine host.openSession).runIn scene).1 = .error e) :
    (Desk.inSession host work).runIn scene = (.error e, Desk.opened host scene) :=
  Work.runIn_bind_error h

/-- Work in a session that was opened goes before the closing of the session, which is always done. -/
theorem inSession_of_ok (h : ((Desk.onEngine host.openSession).runIn scene).1 = .ok ()) :
    let done := work.runIn (Desk.opened host scene)
    let closed := (Desk.onEngine host.closeSession).runIn done.2
    (Desk.inSession host work).runIn scene = (closed.1 >>= fun _ => done.1, closed.2) := by
  have hopened : (Desk.inSession host work).runIn scene = _ := Work.runIn_bind_ok h
  rw [hopened, Work.runIn_closing]
  rfl

end Sessions

end ObjectIntake.Command
