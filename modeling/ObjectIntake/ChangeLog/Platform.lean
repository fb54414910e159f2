import ObjectIntake.Dataset.Partition
import ObjectIntake.Event.Predicate
import ObjectIntake.ObjectPath.Survey
import ObjectIntake.Work

/-!
What a source needs of the world: a change log with its versions and rows, a probe for paths, and a loader for
files.
-/
namespace ObjectIntake

structure Platform (W Rows Data : Type) where
  /-- The committed versions, in ascending order. -/
  versions : (basePath : String) → Work W (List Int)
  read : ReadMode → (basePath : String) → VersionRange → Work W Rows
  isEmpty : Rows → Work W Bool
  references : Event.Predicate → Rows → Work W (List Event.Reference)
  presence : W → (path : String) → ObjectPath.Presence
  noteProbes : (paths : List String) → W → W
  /-- How deep the options for the loader may nest values. -/
  depth : W → Nat
  load : (format : String) → (options : Keyed Json) → (paths : List String) → Work W Data
  derive : Dataset.PartitionColumn → Data → Work W Data

/-- An engine that opens sessions, in which a platform works, and that counts and displays what was loaded. -/
structure Host (W Rows Data : Type) where
  platform : (commitColumn : String) → Platform W Rows Data
  openSession : Work W Unit
  closeSession : Work W Unit
  countRows : Data → Work W Nat
  display : Data → (rows : Int) → Work W Unit

end ObjectIntake
