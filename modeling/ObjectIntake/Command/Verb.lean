import ObjectIntake.Command.Grammar
import ObjectIntake.Command.Help

/-! The commands of the program, their options and their help. -/
namespace ObjectIntake.Command

def programName : String := "s3incr"

inductive Verb where
  | config
  | fetch
  | resolve
  deriving DecidableEq, Repr

namespace Verb

def name : Verb → String
  | config => "config"
  | fetch => "fetch"
  | resolve => "resolve"

/-- All commands, by name. -/
def all : List Verb := [config, fetch, resolve]

def ofName? (name : String) : Option Verb := all.find? fun v => v.name = name

theorem ofName?_name (v : Verb) : ofName? v.name = some v := by cases v <;> decide

end Verb

def helpForm : OptionForm := .switch "--help" none "Show this message and exit."
def versionForm : OptionForm := .switch "--version" none "Show the version and exit."

/-- The options before the command. -/
def mainGrammar : Grammar :=
  [versionForm, .valued none "--log-level" .text "Logging level (defaults to LOG_LEVEL)", helpForm]

def confForm : OptionForm :=
  .valued (some 'c') "--conf" .text
    "Source property as key=value, e.g. source.s3incr.base.path=s3a://bucket/events"

def checkpointFileForm : OptionForm := .valued none "--checkpoint-file" .file "Checkpoint file"

namespace Verb

def grammar : Verb → Grammar
  | config => [confForm, helpForm]
  | fetch =>
      [confForm,
        .valued none "--checkpoint" .text "Checkpoint to start from (defaults to the stored one)",
        checkpointFileForm,
        .valued none "--source-limit" .integer "Size hint passed to the source  [default: 0]",
        .switch "--save" (some "--no-save") "Persist the new checkpoint",
        .valued none "--show" .integer "Print the first N loaded rows",
        .switch "--serve-metrics" none "Expose Prometheus metrics on METRICS_PORT while fetching",
        helpForm]
  | resolve =>
      [confForm,
        .valued none "--checkpoint" .text "Checkpoint to resolve from (defaults to the stored one)",
        checkpointFileForm, helpForm]

def about : Verb → List String
  | config => ["Show the effective source configuration."]
  | fetch =>
      ["Fetch the next batch of files referenced by S3 events.",
        "The checkpoint is read from the checkpoint file unless --checkpoint is given, and the new one " ++
          "is written back after a successful fetch."]
  | resolve => ["Show the change-log range the next fetch would read, without reading it."]

end Verb

/-- Where on the command line something is said: before the command or after it. -/
inductive Scope where
  | main
  | verb (v : Verb)
  deriving DecidableEq, Repr

namespace Scope

def path : Scope → String
  | main => programName
  | verb v => programName ++ " " ++ v.name

def usage : Scope → String
  | main => "Usage: " ++ main.path ++ " [OPTIONS] COMMAND [ARGS]..."
  | verb v => "Usage: " ++ (verb v).path ++ " [OPTIONS]"

def grammar : Scope → Grammar
  | main => mainGrammar
  | verb v => v.grammar

def about : Scope → List String
  | main =>
      ["S3 Events Incremental Source.",
        "Loads the objects referenced by S3 event notifications recorded in a Delta change-log table, " ++
          "one checkpointed batch at a time."]
  | verb v => v.about

def commands : Scope → List Help.Entry
  | main => Verb.all.map fun v => ⟨v.name, v.about.headD ""⟩
  | verb _ => []

def help (s : Scope) : List String :=
  Help.page s.usage s.about (s.grammar.map fun form => ⟨form.heading, form.about⟩) s.commands

/-- What is written about a misuse, line by line. -/
def report (s : Scope) (misuse : Misuse) : List String :=
  (if misuse.showsUsage then [s.usage, "Try '" ++ s.path ++ " --help' for help.", ""] else []) ++
    ["Error: " ++ misuse.message]

end Scope
end ObjectIntake.Command
