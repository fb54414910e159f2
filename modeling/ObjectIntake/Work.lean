import ObjectIntake.Failure
import ObjectIntake.Journal
import ObjectIntake.Metrics

/-! Work on a world: it may fail, and what it did and wrote until then stays. -/
namespace ObjectIntake

structure Scene (W : Type) where
  world : W
  journal : List Record
  registry : Registry
  /-- The seconds that a fetch takes. -/
  elapsed : Float

abbrev Work (W : Type) (α : Type) := ExceptT Failure (StateM (Scene W)) α

namespace Scene

def start {W : Type} (world : W) : Scene W := ⟨world, [], Registry.empty, 0.0⟩

end Scene

namespace Work

variable {W α : Type}

/-- The result and the scene after the work. -/
def runIn (work : Work W α) (scene : Scene W) : Except Failure α × Scene W := work.run scene

def ofExcept (result : Except Failure α) : Work W α := fun scene => (result, scene)

def world : Work W W := fun scene => (.ok scene.world, scene)

def change (f : W → W) : Work W Unit := fun scene => (.ok (), { scene with world := f scene.world })

def write (record : Record) : Work W Unit := fun scene =>
  (.ok (), { scene with journal := scene.journal ++ [record] })

def writeAll (records : List Record) : Work W Unit := fun scene =>
  (.ok (), { scene with journal := scene.journal ++ records })

def log (channel : String) (level : Level) (message : String) : Work W Unit :=
  write { channel := channel, level := level, message := message }

/-- Writes a record with a text, unless the text cannot be written. -/
def tell (channel : String) (level : Level) (text : Except Failure String) : Work W Unit := do
  log channel level (← ofExcept text)

/-- Records in the registry, or fails as that does. -/
def meter (f : Registry → Registry × Except Failure Unit) : Work W Unit := fun scene =>
  let (registry, result) := f scene.registry
  (result, { scene with registry := registry })

def elapsed : Work W Float := fun scene => (.ok scene.elapsed, scene)

/-- Work on a part of the world. -/
def within {V : Type} (get : W → V) (set : V → W → W) (work : Work V α) : Work W α := fun scene =>
  let (result, part) := work.runIn ⟨get scene.world, scene.journal, scene.registry, scene.elapsed⟩
  (result, ⟨set part.world scene.world, part.journal, part.registry, part.elapsed⟩)

/-- Work that is closed whether it succeeds or not. A failure to close goes before its result. -/
def closing (work : Work W α) (close : Work W Unit) : Work W α := fun scene =>
  let (result, scene) := work.runIn scene
  match close.runIn scene with
  | (.ok _, scene) => (result, scene)
  | (.error failure, scene) => (.error failure, scene)

end Work
end ObjectIntake
