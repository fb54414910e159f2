import ObjectIntake.ChangeLog.Platform
import ObjectIntake.Checkpoint.Token
import ObjectIntake.Settings.Live

/-! From a checkpoint to the range of versions that is read next. -/
namespace ObjectIntake.Checkpoint
open Settings

variable {W Rows Data : Type}

structure Resolved where
  mode : ReadMode
  range : VersionRange
  /-- The checkpoint after the range has been read. -/
  token : String
  deriving DecidableEq

/-- The channel of the change log's own records. -/
def planChannel : String := "src.sources.changelog.base"

/-- The strategy in force: reading the latest version, if that is asked for, goes before the other one. -/
def strategy (s : SourceSettings) : Option Strategy :=
  if s.latestOnMissing then some .latest else s.strategy

/-- The warning that the strategy given is not the one in force. -/
def strategyWarning (s : SourceSettings) : Option String :=
  match s.latestOnMissing, s.strategy with
  | true, some given =>
      if given = .latest then none
      else some ("read_latest_on_missing_checkpoint overrides missing_checkpoint_strategy=" ++ given.name)
  | _, _ => none

def effectiveStrategy (channel : String) (s : LiveSettings) : Work W (Option Strategy) := do
  match strategyWarning s.toSourceSettings with
  | some message =>
      Work.ofExcept (s.check .strategyName)
      Work.log channel .warning message
  | none => pure ()
  return strategy s.toSourceSettings

/-- The warning that versions after `lower` are gone. -/
def gapWarning (lower oldest : Int) : Except Failure String := do
  return "Checkpoint " ++ (← Numeral.written lower) ++ " predates retained history (earliest " ++
    (← Numeral.written oldest) ++ "), falling back to snapshot read"

/-- The plan for the versions listed, with a warning if some before it may be missing. -/
def planRange (versions : List Int) (count : Int) (lower : Option Int) (strategy : Option Strategy)
    (basePath : Json) : Work W Version.Plan :=
  match Version.plan versions count lower strategy with
  | .error .noVersions => throw (.resolution (.noVersions basePath))
  | .error .noStrategy => throw (.resolution (.noStrategy basePath))
  | .ok plan => do
      match plan.truncatedAt with
      | some oldest => Work.tell planChannel .warning (gapWarning plan.range.lower oldest)
      | none => pure ()
      return plan

/-- The version of a normalized checkpoint. -/
def startOf (token : Json) : Except Failure (Option Int) :=
  match token with
  | .null => .ok none
  | token => (parse token).map some

/-- What is told of a checkpoint and the plan that it resolves to. -/
def resolvedText (last : Json) (plan : Version.Plan) : Except Failure String := do
  return "Resolved checkpoint " ++ (← last.writtenAs Json.literal) ++ " to " ++ plan.mode.name ++
    " read of versions " ++ (← plan.range.written)

def resolve (platform : Platform W Rows Data) (channel : String) (s : LiveSettings) (last : Json) :
    Work W Resolved := do
  let basePath ←
    match s.basePath with
    | none => throw (.configuration .noBasePath)
    | some "" => throw (.configuration .noBasePath)
    | some basePath => pure basePath
  Work.ofExcept (s.check .sizeCheck)
  if s.fetchSize < 1 then
    throw (.configuration (.fetchSizeBelowOne (← Work.ofExcept (Numeral.written s.fetchSize))))
  let strategy ← effectiveStrategy channel s
  let versions ← platform.versions basePath
  let lower ← Work.ofExcept (startOf (normalize last))
  if lower.isSome && !versions.isEmpty then Work.ofExcept (s.check .sizeCount)
  let plan ← planRange versions s.fetchSize lower strategy (s.value .basePath)
  let token ← Work.ofExcept (format plan.range.upper)
  Work.tell channel .info (resolvedText last plan)
  return ⟨plan.mode, plan.range, token⟩

end ObjectIntake.Checkpoint
