import ObjectIntake.Proofs.Work

/-!
What work may do to the scene, however it goes. A relation between the scene before and the scene after that
every part of the work keeps to is kept to by the whole.
-/
namespace ObjectIntake

/-- A relation of scenes that allows records to be written and one thing to be done after another. -/
structure Scene.Course {W : Type} (R : Scene W → Scene W → Prop) : Prop where
  writes : ∀ (scene : Scene W) (records : List Record), R scene { scene with journal := scene.journal ++ records }
  trans : ∀ {a b c : Scene W}, R a b → R b c → R a c

namespace Work

variable {W α β : Type} {R : Scene W → Scene W → Prop}

/-- Whether it succeeds or not, the work leads from each scene to one that is related to it. -/
def Moves (R : Scene W → Scene W → Prop) (work : Work W α) : Prop :=
  ∀ scene : Scene W, R scene (work.runIn scene).2

namespace Moves

theorem change {f : W → W} (h : ∀ scene, R scene { scene with world := f scene.world }) :
    (Work.change f).Moves R := h

theorem meter (h : ∀ scene registry, R scene { scene with registry := registry })
    (f : Registry → Registry × Except Failure Unit) : (Work.meter f : Work W Unit).Moves R :=
  fun scene => h scene (f scene.registry).1

/-- Work that branches, where one branch goes on to the other. -/
theorem branch {p : Prop} [Decidable p] {x y : Work W α} (hy : y.Moves R) (hx : y.Moves R → x.Moves R) :
    (if p then x else y).Moves R := by
  split
  next => exact hx hy
  next => exact hy

end Moves
end Work

namespace Scene.Course

open Work

variable {W α β : Type} {R : Scene W → Scene W → Prop} (hR : Scene.Course R)
include hR

theorem refl (scene : Scene W) : R scene scene := by
  simpa using hR.writes scene []

theorem pure (a : α) : Moves R (Pure.pure a : Work W α) := fun scene => hR.refl scene

theorem throw (e : Failure) : Moves R (MonadExcept.throw e : Work W α) := fun scene => hR.refl scene

theorem ofExcept (r : Except Failure α) : Moves R (Work.ofExcept r : Work W α) := fun scene => hR.refl scene

theorem world : Moves R (Work.world : Work W W) := fun scene => hR.refl scene

theorem elapsed : Moves R (Work.elapsed : Work W Float) := fun scene => hR.refl scene

theorem write (record : Record) : Moves R (Work.write record : Work W Unit) := fun scene =>
  hR.writes scene [record]

theorem writeAll (records : List Record) : Moves R (Work.writeAll records : Work W Unit) := fun scene =>
  hR.writes scene records

theorem log (channel : String) (level : Level) (message : String) :
    Moves R (Work.log channel level message : Work W Unit) := hR.write _

theorem bind {x : Work W α} {f : α → Work W β} (hx : x.Moves R) (hf : ∀ a, (f a).Moves R) :
    (x >>= f).Moves R := by
  intro scene
  have hfirst := hx scene
  cases hresult : (x.runIn scene).1 with
  | ok a =>
    rw [runIn_bind_ok hresult]
    exact hR.trans hfirst (hf a _)
  | error e =>
    rw [runIn_bind_error hresult]
    exact hfirst

theorem ofExcept_bind {r : Except Failure α} {f : α → Work W β} (hf : ∀ a, r = .ok a → (f a).Moves R) :
    (Work.ofExcept r >>= f).Moves R := by
  intro scene
  cases hresult : r with
  | ok a =>
    rw [runIn_bind_ok rfl]
    exact hf a hresult scene
  | error e =>
    rw [runIn_bind_error rfl]
    exact hR.refl scene

theorem tell (channel : String) (level : Level) (text : Except Failure String) :
    Moves R (Work.tell channel level text : Work W Unit) := hR.bind (hR.ofExcept text) fun _ => hR.log _ _ _

/-- What stands after a failure is not done. -/
theorem throw_bind (e : Failure) (f : α → Work W β) :
    ((MonadExcept.throw e : Work W α) >>= f).Moves R := fun scene => by
  rw [runIn_bind_error rfl]
  exact hR.refl scene

theorem tryCatch {x : Work W α} {h : Failure → Work W α} (hx : x.Moves R) (hh : ∀ e, (h e).Moves R) :
    (MonadExcept.tryCatch x h).Moves R := by
  intro scene
  have hfirst := hx scene
  cases hresult : (x.runIn scene).1 with
  | ok a =>
    have hrun : (MonadExcept.tryCatch x h).runIn scene = _ := runIn_catch_ok hresult
    rw [hrun]
    exact hfirst
  | error e =>
    have hrun : (MonadExcept.tryCatch x h).runIn scene = _ := runIn_catch_error hresult
    rw [hrun]
    exact hR.trans hfirst (hh e _)

theorem closing {x : Work W α} {close : Work W Unit} (hx : x.Moves R) (hclose : close.Moves R) :
    (Work.closing x close).Moves R := by
  intro scene
  rw [runIn_closing]
  exact hR.trans (hx scene) (hclose _)

theorem forIn {items : List α} {f : α → β → Work W (ForInStep β)} (hf : ∀ a b, (f a b).Moves R) (b : β) :
    (ForIn.forIn items b f : Work W β).Moves R := by
  induction items generalizing b with
  | nil => exact hR.pure b
  | cons a rest ih =>
    rw [List.forIn_cons]
    refine hR.bind (hf a b) fun step => ?_
    cases step with
    | done b => exact hR.pure b
    | yield b => exact ih b

end Scene.Course
end ObjectIntake
