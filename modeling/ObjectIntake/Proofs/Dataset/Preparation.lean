import ObjectIntake.Proofs.Dataset.Assembly
import ObjectIntake.Proofs.Fetch.Moves

/-!
What is settled of a batch before the loader is called. What is kept is then handed to the loader, or withheld.
-/
namespace ObjectIntake.Dataset
open Settings

variable {W Rows Data : Type}

/-- What is settled before the loader is called: the options of the reader, nested up to `depth`, and the partition
column. -/
def prepared (depth : Nat) (s : LiveSettings) (paths : List String) :
    Except Failure (Keyed Json × Option PartitionColumn) := do
  s.check .readerOptions
  let options ← readOptions depth s.readerOptions
  let column ← columnOf s paths
  return (options, column)

/-- What is handed to the loader of the paths that are kept. -/
def handedOf (depth : Nat) (s : LiveSettings) (paths : List String) : List (List String) :=
  if paths = [] then [] else
    match prepared depth s paths with
    | .ok _ => [paths]
    | .error _ => []

/-- What is withheld of the paths that are kept. -/
def withheldOf (depth : Nat) (s : LiveSettings) (paths : List String) : List (List String) :=
  if paths = [] then [] else
    match prepared depth s paths with
    | .ok _ => []
    | .error _ => [paths]

/-- The number of paths in these lists. -/
def pathCount (lists : List (List String)) : Nat := lists.flatten.length

theorem pathCount_append (as bs : List (List String)) : pathCount (as ++ bs) = pathCount as + pathCount bs := by
  unfold pathCount
  rw [List.flatten_append, List.length_append]

/-- What is kept is handed to the loader or withheld. -/
theorem pathCount_handedOf_withheldOf (depth : Nat) (s : LiveSettings) (paths : List String) :
    pathCount (handedOf depth s paths) + pathCount (withheldOf depth s paths) = paths.length := by
  unfold handedOf withheldOf
  by_cases hpaths : paths = []
  · simp [hpaths, pathCount]
  · rw [if_neg hpaths, if_neg hpaths]
    cases prepared depth s paths with
    | ok _ => simp [pathCount]
    | error e => simp [pathCount]

theorem pathCount_withheldOf_eq_zero {depth : Nat} {s : LiveSettings} {paths : List String}
    (h : pathCount (withheldOf depth s paths) = 0) : withheldOf depth s paths = [] := by
  unfold withheldOf at h ⊢
  by_cases hpaths : paths = []
  · rw [if_pos hpaths]
  · rw [if_neg hpaths] at h ⊢
    cases hprepared : prepared depth s paths with
    | ok _ => rfl
    | error e =>
      rw [hprepared] at h
      exact absurd (List.eq_nil_of_length_eq_zero (by simpa [pathCount] using h)) hpaths

/-- The steps of loading a batch up to the call of the loader. -/
def preparation (p : Platform W Rows Data) (channel : String) (s : LiveSettings) (paths : List String) :
    Work W (Keyed Json × Option PartitionColumn) := do
  Work.ofExcept (s.check .readerOptions)
  let options ← Work.ofExcept (readOptions (p.depth (← Work.world)) s.readerOptions)
  if !options.isEmpty then
    Work.log channel .info ("Reader options loaded: " ++ Json.literal (.obj options))
  let column ← partitionColumn channel s paths
  return (options, column)

theorem assemble_eq (p : Platform W Rows Data) (channel : String) (s : LiveSettings) (paths : List String) :
    assemble p channel s paths = do
      let (options, column) ← preparation p channel s paths
      let data ← p.load s.fileFormat options paths
      match column with
      | some column => p.derive column data
      | none => return data := by
  unfold assemble preparation
  rw [bind_assoc]
  refine bind_congr fun _ => ?_
  rw [bind_assoc]
  refine bind_congr fun world => ?_
  rw [bind_assoc]
  refine bind_congr fun options => ?_
  -- The options are told of, or there are none, and the rest is the same.
  split
  next =>
    rw [bind_assoc]
    refine bind_congr fun _ => ?_
    rw [bind_assoc]
    exact bind_congr fun column => (pure_bind _ _).symm
  next =>
    rw [bind_assoc]
    exact bind_congr fun column => (pure_bind _ _).symm

theorem preparation_gives (p : Platform W Rows Data) (channel : String) (s : LiveSettings) (paths : List String)
    (w : W) : (preparation p channel s paths).Gives w (prepared (p.depth w) s paths) w := by
  unfold preparation prepared
  refine (Work.Gives.ofExcept _).bind_steady fun _ _ => Work.Gives.world.bind ?_
  refine (Work.Gives.ofExcept _).bind_steady fun options _ => ?_
  have hcolumn : (do let column ← partitionColumn channel s paths; return (options, column)).Gives w
      (do let column ← columnOf s paths; return (options, column)) w :=
    (partitionColumn_gives w channel s paths).bind_steady fun _ _ => Work.Gives.pure _
  split
  next => exact (Work.Gives.log _ _ _).bind hcolumn
  next => exact hcolumn

theorem preparation_moves {R : Scene W → Scene W → Prop} (hR : Scene.Course R) (p : Platform W Rows Data)
    (channel : String) (s : LiveSettings) (paths : List String) : (preparation p channel s paths).Moves R := by
  unfold preparation
  refine hR.bind (hR.ofExcept _) fun _ => hR.bind hR.world fun _ => hR.bind (hR.ofExcept _) fun options => ?_
  refine Work.Moves.branch ?_ fun hrest => hR.bind (hR.log _ _ _) fun _ => hrest
  exact hR.bind (partitionColumn_moves hR channel s paths) fun column => hR.pure _

end ObjectIntake.Dataset
