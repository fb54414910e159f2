import ObjectIntake.Json.Reader
import ObjectIntake.Settings.Source

/-!
The settings of the application: those of its source, of its metrics and its own. Each group may be given as
one JSON object, and what is not given in it comes from the variables of the group.
-/
namespace ObjectIntake.Settings

structure Application where
  source : SourceSettings
  metricsPort : Int
  logLevel : String
  checkpointFile : String
  deriving DecidableEq

namespace Application

/-- The groups, named as they are declared. -/
inductive Group where
  | source
  | metrics
  | application
  deriving DecidableEq

def Group.name : Group → String
  | source => "source"
  | metrics => "observability"
  | application => "app"

def Group.label : Group → String
  | source => "S3EventsSourceConfig"
  | metrics => "ObservabilityConfig"
  | application => "ApplicationConfig"

def portName : String := "METRICS_PORT"

/-- The names of the settings of a group. -/
def Group.settings : Group → List String
  | source => SourceField.all.map (·.name)
  | metrics => [portName]
  | application => ["log_level", "checkpoint_file"]

/-- The setting that a member sets, its name matched without case. Other members keep their names. -/
def Group.settingName (g : Group) (member : String) : String :=
  (g.settings.find? fun name => Text.lowercase name = Text.lowercase member).getD member

/-- The object with the members that name settings under the names of these. Of two for one setting the last counts. -/
def withFoldedNames (g : Group) (j : Json) : Json :=
  match j with
  | .obj members => .obj (Keyed.ofList (members.map fun (k, j) => (g.settingName k, j)))
  | j => j

def readGroup (depth : Nat) (g : Group) (text : Option String) : Except Failure Json :=
  match text with
  | none => .ok .null
  | some text =>
      match Json.read depth text with
      | .ok j => .ok (withFoldedNames g j)
      | .error ⟨.nestedTooDeep, _⟩ => .error .nestedTooDeep
      | .error _ => .error .unreadableSettings

/-- Members of both objects, those of the first going before; of two other values the first that is given. -/
def overlay (above below : Json) : Json :=
  match above, below with
  | .null, j => j
  | .obj a, .obj b => .obj (Keyed.merge b a)
  | j, _ => j

def pick (given : Option Json) (fallback : Option String) : Option Json :=
  match given with
  | some j => some j
  | none => fallback.map Json.str

/-- The port of the metrics server, which only the environment may set. No other member is known. -/
def metricsGroup (members : Keyed Json) (around : Surroundings) : Except (List Issue) Int :=
  let extra := (members.filter fun (k, _) => k ≠ portName).map fun (k, _) =>
    (⟨[k], .unknownName⟩ : Issue)
  let port : Except Violation Int :=
    match pick (members.get? portName) (around.inEnvironment "metrics_port") with
    | none => .ok 8000
    | some j => Lax.integer j
  match port, extra with
  | .ok n, [] => .ok n
  | .ok _, extra => .error extra
  | .error v, extra => .error (⟨[portName], v⟩ :: extra)

def textSetting (name fallback : String) (members : Keyed Json) (around : Surroundings) :
    String × List Issue :=
  match pick (members.get? name) (around.value? name) with
  | none => (fallback, [])
  | some j =>
      match Lax.text j with
      | .ok s => (s, [])
      | .error v => (fallback, [⟨[name], v⟩])

/-- The level of the log and the checkpoint file. -/
def applicationGroup (members : Keyed Json) (around : Surroundings) :
    Except (List Issue) (String × String) :=
  let (level, levelIssues) := textSetting "log_level" "INFO" members around
  let (file, fileIssues) := textSetting "checkpoint_file" ".s3incr_checkpoint.json" members around
  match levelIssues ++ fileIssues with
  | [] => .ok (level, file)
  | issues => .error issues

/--
A group that is not given is built from its variables alone, and fails at once. Faults of a given one are
located in it and kept until all groups have been read.
-/
def resolveGroup {α : Type} (g : Group) (build : Keyed Json → Except (List Issue) α) (given : Json) :
    Except Failure (Except (List Issue) α) :=
  match given with
  | .null =>
      match build [] with
      | .ok a => .ok (.ok a)
      | .error issues => .error (.invalidSettings issues)
  | .obj members =>
      match build members with
      | .ok a => .ok (.ok a)
      | .error issues => .ok (.error (issues.map (·.within g.name)))
  | _ => .ok (.error [⟨[g.name], .groupExpected g.label⟩])

def issuesOf {α : Type} : Except (List Issue) α → List Issue
  | .ok _ => []
  | .error issues => issues

def readGroups (depth : Nat) (read : String → Option String) : Except Failure (Group → Json) := do
  let source ← readGroup depth .source (read Group.source.name)
  let metrics ← readGroup depth .metrics (read Group.metrics.name)
  let application ← readGroup depth .application (read Group.application.name)
  return fun
    | .source => source
    | .metrics => metrics
    | .application => application

/-- What is given for each group. -/
def given (around : Surroundings) : Except Failure (Group → Json) := do
  let environment ← readGroups around.depth around.inEnvironment
  let file ← readGroups around.depth around.inFile
  return fun g => overlay (environment g) (file g)

def sourceOf (around : Surroundings) (given : Group → Json) : Except Failure (Except (List Issue) SourceSettings) :=
  resolveGroup .source (fun m => SourceSettings.ofFields m around) (given .source)

def metricsOf (around : Surroundings) (given : Group → Json) : Except Failure (Except (List Issue) Int) :=
  resolveGroup .metrics (fun m => metricsGroup m around) (given .metrics)

def load (around : Surroundings) : Except Failure Application := do
  let given ← given around
  let source ← sourceOf around given
  let metrics ← metricsOf around given
  let application ← resolveGroup .application (fun m => applicationGroup m around) (given .application)
  match source, metrics, application with
  | .ok source, .ok port, .ok (level, file) => return ⟨source, port, level, file⟩
  | _, _, _ => throw (.invalidSettings (issuesOf source ++ issuesOf metrics ++ issuesOf application))

/-- Whether a group is built, which takes a reading of the file, from what is given for it. -/
def isBuilt : Json → Bool
  | .null => true
  | .obj _ => true
  | _ => false

/--
How often the file is read for the settings: once for the groups that are given in it, and once for each of the
two groups that it may set, unless an earlier one fails at once.
-/
def readings (around : Surroundings) : Nat :=
  match given around with
  | .error _ => 1
  | .ok given =>
      let own (g : Group) : Nat := if isBuilt (given g) then 1 else 0
      match sourceOf around given, metricsOf around given with
      | .ok _, .ok _ => 1 + own .source + own .application
      | _, _ => 1 + own .source

/-- The port to serve metrics on: the one asked for unless it is zero, else the configured one. -/
def exporterPort (a : Application) (asked : Option Int) : Int :=
  match asked with
  | some port => if port = 0 then a.metricsPort else port
  | none => a.metricsPort

end Application
end ObjectIntake.Settings
