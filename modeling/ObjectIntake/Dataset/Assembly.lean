import ObjectIntake.ChangeLog.Platform
import ObjectIntake.Dataset.Options
import ObjectIntake.Settings.Live

/-! Loading a batch: all that can be refused is refused before the loader is called. -/
namespace ObjectIntake.Dataset
open Settings

variable {W Rows Data : Type}

/-- The partition column of the batch, if one is configured and its first path has it. -/
def partitionColumn (channel : String) (s : LiveSettings) (paths : List String) :
    Work W (Option PartitionColumn) := do
  Work.ofExcept (s.check .partitionKey)
  match s.attachPartition, s.partitionKey with
  | true, some key =>
      match paths with
      | [] => throw .noPaths
      | path :: _ =>
          match PartitionColumn.infer key path with
          | .error e => throw (.configuration e)
          | .ok none => return none
          | .ok (some column) => do
              Work.log channel .info ("Adding column name = " ++ key ++ " to dataset")
              return some column
  | _, _ => return none

def assemble (platform : Platform W Rows Data) (channel : String) (s : LiveSettings)
    (paths : List String) : Work W Data := do
  Work.ofExcept (s.check .readerOptions)
  let options ← Work.ofExcept (readOptions (platform.depth (← Work.world)) s.readerOptions)
  if !options.isEmpty then
    Work.log channel .info ("Reader options loaded: " ++ Json.literal (.obj options))
  let column ← partitionColumn channel s paths
  let data ← platform.load s.fileFormat options paths
  match column with
  | some column => platform.derive column data
  | none => return data

end ObjectIntake.Dataset
