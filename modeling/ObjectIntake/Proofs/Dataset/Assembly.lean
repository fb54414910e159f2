import ObjectIntake.Dataset.Assembly
import ObjectIntake.Proofs.ChangeLog.Memory
import ObjectIntake.Proofs.Settings.Live

/-!
What loading a batch comes to in memory. The loader is called once, for all paths, and only where nothing is
refused.
-/
namespace ObjectIntake.Dataset
open Settings Memory

/-- The partition column for the paths, or why it cannot be told. -/
def columnOf (s : LiveSettings) (paths : List String) : Except Failure (Option PartitionColumn) := do
  s.check .partitionKey
  match s.attachPartition, s.partitionKey with
  | true, some key =>
      match paths with
      | [] => throw .noPaths
      | path :: _ =>
          match PartitionColumn.infer key path with
          | .error e => throw (.configuration e)
          | .ok column => return column
  | _, _ => return none

/-- The table that is loaded at the site for the paths, or why none is. -/
def assembled (site : Site) (s : LiveSettings) (paths : List String) : Except Failure Table := do
  s.check .readerOptions
  let options ← readOptions site.depth s.readerOptions
  let column ← columnOf s paths
  let table := Table.load site.files s.fileFormat options paths
  match column with
  | some column => return table.derive column
  | none => return table

/-- The fetch size has no part in this. -/
theorem assembled_put_fetchSize (site : Site) (s : LiveSettings) (n : Int) (paths : List String) :
    assembled site (s.put .fetchSize (.int n)) paths = assembled site s paths := by
  have hoptions : (s.put .fetchSize (.int n)).check .readerOptions = s.check .readerOptions := by
    rw [LiveSettings.check_put_fetchSize, if_neg (by decide)]
  have hkey : (s.put .fetchSize (.int n)).check .partitionKey = s.check .partitionKey := by
    rw [LiveSettings.check_put_fetchSize, if_neg (by decide)]
  unfold assembled columnOf
  rw [hoptions, hkey]
  rfl

theorem partitionColumn_gives {W : Type} (w : W) (channel : String) (s : LiveSettings)
    (paths : List String) : (partitionColumn channel s paths).Gives w (columnOf s paths) w := by
  unfold partitionColumn columnOf
  refine (Work.Gives.ofExcept _).bind_steady fun _ _ => ?_
  cases s.attachPartition with
  | false => exact Work.Gives.pure _
  | true =>
    cases s.partitionKey with
    | none => exact Work.Gives.pure _
    | some key =>
      cases paths with
      | nil => exact Work.Gives.throw _
      | cons path rest =>
        dsimp only
        cases PartitionColumn.infer key path with
        | error e => exact Work.Gives.throw _
        | ok column =>
          cases column with
          | none => exact Work.Gives.pure _
          | some column => exact (Work.Gives.log _ _ _).bind (Work.Gives.pure _)

/-- The site after a load: the call of the loader is noted where there was one. -/
def siteAfter (site : Site) (paths : List String) : Except Failure Table → Site
  | .ok _ => site.noteLoad paths
  | .error _ => site

theorem assemble_gives (answers : Probe → String → ObjectPath.Presence) (channel : String)
    (s : LiveSettings) (paths : List String) (site : Site) :
    (assemble (probing answers) channel s paths).Gives site (assembled site s paths)
      (siteAfter site paths (assembled site s paths)) := by
  unfold assemble assembled
  have hcheck := Work.Gives.ofExcept (w := site) (s.check .readerOptions)
  cases hreader : s.check .readerOptions with
  | error e => exact (hreader ▸ hcheck).bind_error
  | ok _ =>
    refine (hreader ▸ hcheck).bind (Work.Gives.world.bind ?_)
    have hread := Work.Gives.ofExcept (w := site) (readOptions site.depth s.readerOptions)
    change Work.Gives (Work.ofExcept (readOptions site.depth s.readerOptions) >>= _) _ _ _
    cases hoptions : readOptions site.depth s.readerOptions with
    | error e => exact (hoptions ▸ hread).bind_error
    | ok options =>
      refine (hoptions ▸ hread).bind ?_
      have hcolumn := partitionColumn_gives site channel s paths
      have hload := load_gives s.fileFormat options paths site
      dsimp only
      -- The reader options are written out before the rest where there are any.
      have hskip {rest : Work Site Table} {r : Except Failure Table} {after : Site} (message : String)
          (hrest : rest.Gives site r after) :
          (if (!List.isEmpty options) = true then
            Work.log channel .info message >>= fun _ => rest
          else rest).Gives site r after := by
        split
        next => exact (Work.Gives.log _ _ _).bind hrest
        next => exact hrest
      refine hskip _ ?_
      cases hkey : columnOf s paths with
      | error e => exact (hkey ▸ hcolumn).bind_error
      | ok column =>
        refine (hkey ▸ hcolumn).bind ?_
        refine hload.bind ?_
        cases column with
        | none => exact Work.Gives.pure _
        | some column => exact Work.Gives.pure _

end ObjectIntake.Dataset
