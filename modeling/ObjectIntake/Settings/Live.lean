import ObjectIntake.Settings.Source
import ObjectIntake.Work

/-!
The settings that a source reads while it runs. They are changed one at a time and without a check, so that a
value of a wrong kind is found out only where it is used.
-/
namespace ObjectIntake.Settings

/-- What a setting is used for, as far as its kind matters there. -/
inductive Use where
  | sizeCheck
  | sizeCount
  | strategyName
  | readerOptions
  | partitionKey
  | extensions
  | formatAsExtension
  | scheme
  | workers
  deriving DecidableEq

def Use.field : Use → SourceField
  | sizeCheck => .fetchSize
  | sizeCount => .fetchSize
  | strategyName => .strategy
  | readerOptions => .readerOptions
  | partitionKey => .partitionField
  | extensions => .fileExtensions
  | formatAsExtension => .fileFormat
  | scheme => .fileSystem
  | workers => .parallelism

structure LiveSettings extends SourceSettings where
  /-- The uses that fail, because the value in force is of a wrong kind. -/
  refused : List (Use × Failure) := []
  /-- The values that were put, as they were put. -/
  stated : List (SourceField × Json) := []

def SourceSettings.live (s : SourceSettings) : LiveSettings := { s with }

namespace LiveSettings

/-- Fails if the value in force does not serve the use. -/
def check (s : LiveSettings) (u : Use) : Except Failure Unit :=
  match s.refused.lookup u with
  | some failure => .error failure
  | none => .ok ()

/-- The value of a field. -/
def value (s : LiveSettings) (f : SourceField) : Json := (s.stated.lookup f).getD (s.toSourceSettings.value f)

def toProperties (s : LiveSettings) : Keyed Json := SourceField.all.map fun f => (f.key, s.value f)

/-- The format stands for the extensions where none are given. -/
def checkExtensions (s : LiveSettings) : Except Failure Unit :=
  if (s.value .fileExtensions).isTruthy then s.check .extensions else s.check .formatAsExtension

theorem check_live (s : SourceSettings) (u : Use) : s.live.check u = .ok () := rfl

def refuse (s : LiveSettings) (u : Use) (failure : Failure) : LiveSettings :=
  { s with refused := (u, failure) :: s.refused }

/-- A whole number, or a truth value in its place. Other values are refused where they are used. -/
def putFetchSize (s : LiveSettings) (j : Json) : LiveSettings :=
  let belowOne := Failure.configuration (.fetchSizeBelowOne j.plainText)
  match j with
  | .int n => { s with fetchSize := n }
  | .bool true => { s with fetchSize := 1 }
  | .bool false => s.refuse .sizeCheck belowOne
  | .float x =>
      let s := { s with fetchSize := 1 }
      if x < 1.0 then s.refuse .sizeCheck belowOne
      else s.refuse .sizeCount (.wrongKind "the fetch size is not a whole number")
  | _ => s.refuse .sizeCheck (.wrongKind "the fetch size is not a number")

/-- Any value but null and the name of the other strategy reads everything; it has no name of its own. -/
def putStrategy (s : LiveSettings) (j : Json) : LiveSettings :=
  match j with
  | .null => { s with strategy := none }
  | j =>
      if j.str? = some Strategy.latest.name then { s with strategy := some .latest }
      else { s with strategy := some .uptoLatest }.refuse .strategyName .noSuchPart

/-- A text; any other value that does not count as absent is refused where it is used. -/
def putText (s : LiveSettings) (u : Use) (failure : Failure) (set : Option String → SourceSettings) (j : Json) :
    LiveSettings :=
  match j with
  | .str text => { s with toSourceSettings := set (some text) }
  | j =>
      let s := { s with toSourceSettings := set none }
      if j.isTruthy then s.refuse u failure else s

/-- A text; any other value is refused where it is used, and written where only that is asked for. -/
def putName (s : LiveSettings) (u : Use) (set : String → SourceSettings) (j : Json) : LiveSettings :=
  let s := { s with toSourceSettings := set j.plainText }
  match j with
  | .str _ => s
  | _ => s.refuse u .noSuchPart

/-- A whole number, or a truth value in its place. -/
def putWorkers (s : LiveSettings) (j : Json) : LiveSettings :=
  match j with
  | .int n => { s with parallelism := n }
  | .bool b => { s with parallelism := if b then 1 else 0 }
  | .float x => { s with parallelism := (Numeral.Binary64.truncate? x).getD 1 }
  | _ => s.refuse .workers (.wrongKind "the number of workers is not a number")

/-- The settings with another value for a field. -/
def put (s : LiveSettings) (f : SourceField) (j : Json) : LiveSettings :=
  let s := { s with
    refused := s.refused.filter fun r => r.1.field ≠ f
    stated := (f, j) :: s.stated.filter fun r => r.1 ≠ f }
  match f with
  | .basePath => { s with basePath := if j.isTruthy then some j.plainText else none }
  | .fetchSize => s.putFetchSize j
  | .strategy => s.putStrategy j
  | .latestOnMissing => { s with latestOnMissing := j.isTruthy }
  | .fileFormat =>
      s.putName .formatAsExtension (fun text => { s.toSourceSettings with fileFormat := text }) j
  | .keyStart => { s with keyStart := j.str? }
  | .ignoredKeyStart => { s with ignoredKeyStart := j.str? }
  | .ignoredKeyPart => { s with ignoredKeyPart := j.str? }
  | .fileExtensions =>
      s.putText .extensions .noSuchPart (fun text => { s.toSourceSettings with fileExtensions := text }) j
  | .checkExistence => { s with checkExistence := j.isTruthy }
  | .parallelism => s.putWorkers j
  | .attachPartition => { s with attachPartition := j.isTruthy }
  | .partitionField =>
      s.putText .partitionKey .noSuchPart (fun text => { s.toSourceSettings with partitionField := text }) j
  | .readerOptions =>
      s.putText .readerOptions (.wrongKind "the reader options are not a text")
        (fun text => { s.toSourceSettings with readerOptions := text }) j
  | .fileSystem => s.putName .scheme (fun text => { s.toSourceSettings with fileSystem := text }) j
  | .commitColumn => { s with commitColumn := j.plainText }

/-- What is told by the settings and cannot be put. -/
def derived : List String :=
  ["extension_filters", "scheme", "partition_key", "model_config", "model_extra", "model_fields_set"]

/-- The settings with another value for the field of a name. Names of private marks may be put and mean nothing. -/
def putNamed (s : LiveSettings) (name : String) (j : Json) : Except Failure LiveSettings :=
  match SourceField.ofName? name with
  | some f => .ok (s.put f j)
  | none =>
      if derived.contains name then .error .noSuchPart
      else if Text.startsWith name "_" then .ok s
      else .error (.noSuchField name)

end LiveSettings
end ObjectIntake.Settings
