import ObjectIntake.Json.Printer
import ObjectIntake.Json.Reader
import ObjectIntake.Settings.Violation
import ObjectIntake.Text.Template
import ObjectIntake.Version.Range

/-! Everything that can go wrong, by cause, and how it is worded. -/
namespace ObjectIntake
open Text

inductive ConfigurationFault where
  | unknownProperty (key : String)
  | invalidProperties (given : Keyed Json) (issues : List Settings.Issue)
  | noBasePath
  | fetchSizeBelowOne (size : String)
  | optionsUnreadable (raw : String)
  | optionsNotObject (raw : String)
  | manyPartitionLevels (key path : String)
  | noProbe
  | checkpointUnreadable (path text : String) (fault : Json.Fault)
  | checkpointNotObject (path : String)

inductive ResolutionFault where
  | notAToken (checkpoint : Json)
  | noVersions (basePath : Json)
  | noStrategy (basePath : Json)
  | tableUnreadable (basePath reason : String)
  | snapshotUnfiltered (basePath column reason : String)

inductive FileFault where
  | exists
  | isDirectory
  | notDirectory
  | nameTooLong
  | inUse
  | notFound
  | nullInName
  deriving DecidableEq

inductive Failure where
  | configuration (fault : ConfigurationFault)
  | resolution (fault : ResolutionFault)
  | invalidSettings (issues : List Settings.Issue)
  /-- A group of settings is not given as JSON. -/
  | unreadableSettings
  | malformedEscape (path : String)
  | notUtf8
  /-- The text of an integer has more digits than can be read. -/
  | numeralTooLong (digits : Nat)
  /-- An integer has more digits than can be written. -/
  | integerTooLong
  | negativeIncrement
  | levelNotANumber (text : String)
  | levelNotComparable
  | templateMismatch (mismatch : Template.Mismatch)
  /-- A value of the wrong kind where it is used. -/
  | wrongKind (reason : String)
  /-- A part of a value is asked for that values of its kind do not have, or that cannot be set. -/
  | noSuchPart
  /-- A field is set that the settings of a source do not have. -/
  | noSuchField (name : String)
  /-- A table is loaded that the engine does not know. -/
  | noSuchTable
  /-- An option of a reader has a name that the engine keeps for itself. -/
  | reservedOption
  | tooLarge
  /-- A point in time that no calendar year holds. -/
  | noSuchMoment
  | momentNotANumber
  | noPaths
  | nestedTooDeep
  | file (fault : FileFault)
  | engine (message : String)
  | notDisplayable
  | strayMarkup (tag : String)
  /-- The parameters of a closed tag do not write a value. -/
  | unreadableMarkup (parameters : String)
  /-- A text stands where an integer is needed. -/
  | notAnInteger (text : String)
  | malformedOption (item : String)

def ConfigurationFault.message : ConfigurationFault → String
  | unknownProperty key => "Unknown source property: " ++ key
  | invalidProperties given _ => "Invalid source properties " ++ Json.literal (.obj given)
  | noBasePath => "Missing required property: base_path (source.s3incr.base.path)"
  | fetchSizeBelowOne size => "num_instants_per_fetch must be positive, got " ++ size
  | optionsUnreadable raw => "Failed to parse reader options: " ++ raw
  | optionsNotObject raw => "Reader options must be a JSON object: " ++ raw
  | manyPartitionLevels key path =>
      "More than one level of partitioning exists for key " ++ quoted key ++ " in " ++ path
  | noProbe => "Existence check is enabled but no file-system probe was provided"
  | checkpointUnreadable path _ _ => "Checkpoint file " ++ path ++ " is not valid JSON"
  | checkpointNotObject path => "Checkpoint file " ++ path ++ " must hold a JSON object"

/-- The message, and where the cause is a text that cannot be read, what is wrong with it. -/
def ConfigurationFault.fullMessage : ConfigurationFault → String
  | checkpointUnreadable path text fault =>
      (checkpointUnreadable path text fault).message ++ ": " ++ fault.describe text
  | fault => fault.message

def ResolutionFault.message : ResolutionFault → String
  | notAToken checkpoint => "Invalid checkpoint token: " ++ Json.literal checkpoint
  | noVersions basePath => "Change log at " ++ Json.literal basePath ++ " has no committed versions"
  | noStrategy basePath =>
      "Missing checkpoint for change log at " ++ Json.literal basePath ++
        " and no missing-checkpoint strategy configured"
  | tableUnreadable basePath reason =>
      "Change log at " ++ quoted basePath ++ " is not a readable Delta table: " ++ reason
  | snapshotUnfiltered basePath column reason =>
      "Cannot filter snapshot of " ++ basePath ++ " on " ++ quoted column ++
        "; enable row tracking or configure a commit column: " ++ reason

namespace Failure

def message : Failure → String
  | configuration fault => fault.fullMessage
  | resolution fault => fault.message
  | malformedEscape path => "Malformed escape sequence in " ++ path
  | notUtf8 => "<invalid utf-8>"
  | numeralTooLong digits => (Json.FaultKind.integerTooLong digits).message
  | integerTooLong => Numeral.limitMessage
  | negativeIncrement => "Counters can only be incremented by non-negative amounts."
  | momentNotANumber => "Invalid value NaN (not a number)"
  | levelNotANumber text => "Unknown level: " ++ quoted text
  | templateMismatch mismatch => mismatch.message
  | wrongKind reason => reason
  | noSuchField name => "\"S3EventsSourceConfig\" object has no field \"" ++ name ++ "\""
  | engine message => message
  | strayMarkup tag => "closing tag " ++ quoted tag ++ " closes no open tag"
  | unreadableMarkup parameters => "the parameters " ++ quoted parameters ++ " are not a value"
  | notAnInteger text => "invalid literal for int() with base 10: " ++ quoted text
  | file .nullInName => "embedded null byte"
  | malformedOption item =>
      "Invalid value for --conf: Expected key=value, got " ++ quoted item
  | _ => ""

/-- Faults of the configuration and of resolution are the ones that a source reports. -/
def isReported : Failure → Bool
  | configuration _ => true
  | resolution _ => true
  | _ => false

/-- The name under which a reported failure is logged. -/
def reportedKind : Failure → String
  | resolution _ => "ResolutionError"
  | _ => "ConfigurationError"

/-- The settings at fault, if invalid settings are the cause. -/
def issues? : Failure → Option (List Settings.Issue)
  | configuration (.invalidProperties _ issues) => some issues
  | invalidSettings issues => some issues
  | _ => none

end Failure

/-- The text of an integer, if it can be written. -/
def Numeral.written (n : Int) : Except Failure String :=
  match write? n with
  | some s => .ok s
  | none => .error .integerTooLong

/-- The bounds of a range, of which the lower one is left out. -/
def VersionRange.written (r : VersionRange) : Except Failure String := do
  return "(" ++ (← Numeral.written r.lower) ++ ", " ++ (← Numeral.written r.upper) ++ "]"

namespace Json

/-- A text for a value, if its integers can be written. -/
def writtenAs (text : Json → String) (j : Json) : Except Failure String :=
  if j.isWritable then .ok (text j) else .error .integerTooLong

end Json
end ObjectIntake
