import ObjectIntake.Proofs.Command.Desk

/-!
What a command starts from: the settings of the application, which are read once, the place of the checkpoint file,
the checkpoint and the settings of the source. Each is a function of the options and of what lies on the desk.
-/
namespace ObjectIntake.Command
open Settings Checkpoint

variable {W : Type}

namespace Desk

/-- The settings of the application, as they were read or as they would be. -/
def applicationFor (desk : Desk W) (d : Deployment) : Except Failure Application :=
  match desk.application with
  | some application => .ok application
  | none => do Application.load (← d.surroundings)

/-- The settings of the source: from the options, or without any from the application's settings. -/
def settingsFor (desk : Desk W) (items : List String) (d : Deployment) : Except Failure SourceSettings := do
  let given ← properties [] items
  if given.isEmpty then return (← desk.applicationFor d).source else settingsAt items d

/-- The checkpoint file that is given, if its name is not empty, or else the one in the application's settings. -/
def pathFor (desk : Desk W) (given : Option String) (d : Deployment) : Except Failure FilePath :=
  match given.filter (· ≠ "") with
  | some path => .ok (FilePath.ofText path)
  | none => do return FilePath.ofText (← desk.applicationFor d).checkpointFile

/-- The checkpoint that is given, even if it is empty, or else the one in the file. -/
def startFor (desk : Desk W) (given : Option String) (d : Deployment) (path : FilePath) : Except Failure Json :=
  match given with
  | some checkpoint => .ok (.str checkpoint)
  | none => Store.load d.depth desk.tree path

/-- What the start of a command depends on, beside its options. -/
def standing (d : Deployment) (scene : Scene (Desk W)) : Except Failure Application × FileTree × W :=
  (scene.world.applicationFor d, scene.world.tree, scene.world.engine)

section Settings

variable {d : Deployment} {s : Except Failure Application × FileTree × W}

theorem warn_takes (message : String) : Work.Takes (standing d) (warn message) s (.ok ()) s := by
  rintro scene rfl
  unfold warn
  rw [Work.runIn_bind_ok rfl]
  split
  next => exact ⟨rfl, rfl⟩
  next => exact ⟨rfl, rfl⟩

theorem noteReadings_takes (around : Surroundings) (times : Nat) :
    Work.Takes (standing d) (noteReadings around times) s (.ok ()) s := by
  refine (Work.Takes.forIn fun _ => ?_).bind (Work.Takes.pure _)
  refine (Work.Takes.forIn fun _ => ?_).bind (Work.Takes.pure _)
  exact (warn_takes _).bind (Work.Takes.pure _)

/-- The settings of the application are kept as they were read. -/
theorem keep_takes {application : Application} (hs : s.1 = .ok application) :
    Work.Takes (standing d) (Work.change fun desk : Desk W => { desk with application := some application }) s (.ok ())
      s := by
  rintro scene rfl
  exact ⟨rfl, Prod.ext hs.symm rfl⟩

/-- Reading the settings of the application gives them, and they are the same from then on. -/
theorem settings_takes : Work.Takes (standing d) (settings d) s s.1 s := by
  rintro scene rfl
  unfold settings
  rw [Work.runIn_bind_ok (a := scene.world) rfl]
  cases happlication : scene.world.application with
  | some application =>
    have hfound : (standing d scene).1 = .ok application := by rw [standing, applicationFor, happlication]
    rw [hfound]
    exact ⟨rfl, rfl⟩
  | none =>
    have hread : (standing d scene).1 = (do Application.load (← d.surroundings)) := by
      rw [standing, applicationFor, happlication]
    have hsteps : Work.Takes (standing d) (do
        let around ← Work.ofExcept d.surroundings
        noteReadings around (Application.readings around)
        let application ← Work.ofExcept (Application.load around)
        Work.change fun desk : Desk W => { desk with application := some application }
        return application) (standing d scene) (standing d scene).1 (standing d scene) := by
      rw [hread]
      refine (Work.Takes.ofExcept _).bind_steady fun around haround => (noteReadings_takes _ _).bind ?_
      rw [haround] at hread
      change (standing d scene).1 = Application.load around at hread
      have hload : Work.Takes (standing d) (Work.ofExcept (Application.load around)) (standing d scene)
          (Application.load around) (standing d scene) := Work.Takes.ofExcept _
      cases happlied : Application.load around with
      | error e => exact (happlied ▸ hload).bind_error
      | ok application =>
        exact (happlied ▸ hload).bind ((keep_takes (hread.trans happlied)).bind (Work.Takes.pure _))
    exact hsteps scene rfl

theorem sourceSettings_takes (items : List String) (scene : Scene (Desk W)) :
    Work.Takes (standing d) (sourceSettings items d) (standing d scene) (scene.world.settingsFor items d)
      (standing d scene) := by
  unfold sourceSettings settingsFor
  refine (Work.Takes.ofExcept _).bind_steady fun given hgiven => ?_
  dsimp only
  split
  next => exact settings_takes.bind_steady fun application _ => Work.Takes.pure _
  next =>
    unfold settingsAt
    rw [hgiven]
    refine (Work.Takes.ofExcept _).bind_steady fun _ _ => ?_
    refine (Work.Takes.ofExcept _).bind_steady fun around _ => ?_
    exact (noteReadings_takes _ _).bind (Work.Takes.ofExcept _)

end Settings

section Start

variable {d : Deployment} (scene : Scene (Desk W)) (given : Option String)

theorem storePath_takes :
    Work.Takes (standing d) (storePath d given) (standing d scene) (scene.world.pathFor given d)
      (standing d scene) := by
  have hsettings : Work.Takes (standing d) (storePath.ofSettings d) (standing d scene)
      (do return FilePath.ofText (← scene.world.applicationFor d).checkpointFile) (standing d scene) :=
    settings_takes.bind_steady fun _ _ => Work.Takes.pure _
  unfold pathFor
  cases given with
  | none => exact hsettings
  | some path =>
    unfold storePath
    by_cases hpath : path = ""
    · rw [Option.filter_some, if_neg (by simp [hpath])]
      dsimp only
      rw [if_pos hpath]
      exact hsettings
    · rw [Option.filter_some, if_pos (by simp [hpath])]
      dsimp only
      rw [if_neg hpath]
      exact Work.Takes.pure _

theorem startingPoint_takes (path : FilePath) :
    Work.Takes (standing d) (startingPoint d.depth path given) (standing d scene) (scene.world.startFor given d path)
      (standing d scene) := by
  intro found hstanding
  cases given with
  | some checkpoint => exact ⟨rfl, hstanding⟩
  | none =>
    have htree : found.world.tree = scene.world.tree := congrArg (·.2.1) hstanding
    exact ⟨congrArg (Store.load d.depth · path) htree, hstanding⟩

theorem say_keeps (text : String) : standing d ((say text).runIn scene).2 = standing d scene := by
  unfold say
  cases htext : Console.printed text with
  | error e => rfl
  | ok shown => rfl

end Start
end Desk
end ObjectIntake.Command
