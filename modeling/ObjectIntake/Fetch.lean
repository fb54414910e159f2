import ObjectIntake.Checkpoint.Resolution
import ObjectIntake.Dataset.Assembly

/-!
A source of files that are announced in a change log. A fetch resolves the next range of versions, reads its
events, keeps the objects that count and exist, and loads them.
-/
namespace ObjectIntake
open Settings Event ObjectPath Checkpoint

structure Source (W Rows Data : Type) where
  platform : Platform W Rows Data
  predicate : Predicate
  surveyor : Surveyor
  channel : String
  /-- Fetches are counted in the registry. -/
  metered : Bool

/-- What a fetch hands out: the data, if there is any, and the checkpoint to go on from. -/
structure Batch (Data : Type) where
  data : Option Data
  token : String

inductive Outcome where
  | caughtUp
  | emptyRead
  | noMatchingFiles
  | noExistingFiles
  | loaded
  | failed
  deriving DecidableEq

def Outcome.name : Outcome → String
  | caughtUp => "caught_up"
  | emptyRead => "empty_read"
  | noMatchingFiles => "no_matching_files"
  | noExistingFiles => "no_existing_files"
  | loaded => "loaded"
  | failed => "failed"

namespace Source

variable {W Rows Data : Type}

/-- The filters and the surveyor of a source follow the settings that it is built with. -/
def build (platform : Platform W Rows Data) (hasProbe : Bool) (s : LiveSettings) (channel : String)
    (metered : Bool) : Except Failure (Source W Rows Data) := do
  s.checkExtensions
  s.check .scheme
  let surveyor ← Surveyor.make s.scheme s.checkExistence hasProbe s.parallelism channel
  s.check .workers
  return {
    platform := platform
    predicate := Predicate.ofSettings s.toSourceSettings
    surveyor := surveyor
    channel := channel
    metered := metered }

def resolve (source : Source W Rows Data) (live : LiveSettings) (last : Json) : Work W Resolved :=
  Checkpoint.resolve source.platform source.channel live last

def meter (source : Source W Rows Data) (f : Registry → Registry × Except Failure Unit) : Work W Unit :=
  if source.metered then Work.meter f else pure ()

def count (source : Source W Rows Data) (outcome : Outcome) : Work W Unit := do
  let seconds ← Work.elapsed
  source.meter fun r => (r.recordBatch outcome.name seconds, .ok ())

/-- The distinct references of the rows that the predicate accepts, in ascending order. -/
def select (channel : String) (platform : Platform W Rows Data) (predicate : Predicate) (rows : Rows) :
    Work W (List Reference) := do
  Work.log channel .debug ("Filtering events with: " ++ predicate.describe)
  let found ← platform.references predicate rows
  let refs := Reference.ascending found
  Work.log channel .info
    (toString refs.length ++ " distinct object references matched the event filter")
  return refs

/-- The paths of the references, with the drops counted and the probes noted. -/
def survey (platform : Platform W Rows Data) (surveyor : Surveyor) (refs : List Reference) :
    Work W Survey := do
  let world ← Work.world
  let found := surveyor.survey (platform.presence world) refs
  Work.change (platform.noteProbes found.probed)
  Work.writeAll found.records
  return found

/-- Counts a fetch that came to an end, notes the version reached, and hands out the batch. -/
def finish (source : Source W Rows Data) (live : LiveSettings) (outcome : Outcome)
    (resolved : Resolved) (data : Option Data) : Work W (Batch Data) := do
  source.count outcome
  source.meter fun r => r.recordVersion (live.basePath.getD "") (.whole resolved.range.upper)
  Work.write
    { channel := source.channel
      level := .info
      message := "Fetch finished: " ++ outcome.name ++ ", checkpoint " ++ resolved.token
      extra := [("outcome", .str outcome.name), ("checkpoint", .str resolved.token)] }
  return ⟨data, resolved.token⟩

def sampleText (paths : List String) : String := Json.literal (.arr ((paths.take 10).map .str))

/-- The stages of a fetch after the range is known. -/
def fetchRange (source : Source W Rows Data) (live : LiveSettings) (resolved : Resolved) :
    Work W (Batch Data) := do
  if resolved.range.caughtUp then
    Work.tell source.channel .warning do
      return "Already caught up. Begin checkpoint was: " ++ (← Numeral.written resolved.range.lower)
    return ← source.finish live .caughtUp resolved none
  let rows ← source.platform.read resolved.mode (live.basePath.getD "") resolved.range
  if ← source.platform.isEmpty rows then
    Work.tell source.channel .info do
      return "No events committed in versions (" ++ (← Numeral.written resolved.range.lower) ++ ", " ++
        (← Numeral.written resolved.range.upper) ++ ")"
    return ← source.finish live .emptyRead resolved none
  let refs ← select source.channel source.platform source.predicate rows
  if refs.isEmpty then return ← source.finish live .noMatchingFiles resolved none
  let found ← survey source.platform source.surveyor refs
  source.meter fun r => r.recordFiles (.whole refs.length) (.whole found.paths.length)
  source.meter fun r => r.recordDropped (found.dropped.counts.map fun (reason, n) => (reason, .whole n))
  Work.log source.channel .info ("Extracted distinct files " ++ toString refs.length ++
    " subset of files that exist " ++ toString found.paths.length ++ " and some samples " ++
    sampleText found.paths)
  if found.paths.isEmpty then return ← source.finish live .noExistingFiles resolved none
  let data ← Dataset.assemble source.platform source.channel live found.paths
  source.finish live .loaded resolved (some data)

/-- Counts and logs a failed fetch after the checkpoint that is written `last`. -/
def reportFailure (source : Source W Rows Data) (last : String) (failure : Failure) : Work W Unit := do
  source.count .failed
  Work.write
    { channel := source.channel
      level := .error
      message := "Fetch failed after checkpoint " ++ last ++ ": " ++ failure.message
      extra := [("outcome", .str Outcome.failed.name), ("error", .str failure.reportedKind)] }

/-- The next batch after the checkpoint `last`. The limit is a hint and is only told of, ranges are bounded by the
fetch size. -/
def fetch (source : Source W Rows Data) (live : LiveSettings) (last : Json) (limit : Json) :
    Work W (Batch Data) := do
  let lastText ← Work.ofExcept (last.writtenAs Json.literal)
  let limitText ← Work.ofExcept (limit.writtenAs Json.plainText)
  Work.log source.channel .debug
    ("Fetching next batch after " ++ lastText ++ " (source limit " ++ limitText ++ ")")
  tryCatch
    (do
      let resolved ← source.resolve live last
      source.fetchRange live resolved)
    fun failure => do
      if failure.isReported then source.reportFailure lastText failure
      throw failure

end Source
end ObjectIntake
