import ObjectIntake.Failure
import ObjectIntake.Settings.Lax
import ObjectIntake.Settings.Surroundings
import ObjectIntake.Text.Search

/-! The settings of a source, their dotted property keys, and how they are built. -/
namespace ObjectIntake.Settings

structure SourceSettings where
  basePath : Option String := none
  fetchSize : Int := 5
  strategy : Option Strategy := none
  latestOnMissing : Bool := false
  fileFormat : String := "parquet"
  keyStart : Option String := none
  ignoredKeyStart : Option String := none
  ignoredKeyPart : Option String := none
  fileExtensions : Option String := none
  checkExistence : Bool := false
  parallelism : Int := 8
  attachPartition : Bool := true
  partitionField : Option String := none
  readerOptions : Option String := none
  fileSystem : String := "s3"
  commitColumn : String := "_metadata.row_commit_version"
  deriving DecidableEq

inductive SourceField where
  | basePath
  | fetchSize
  | strategy
  | latestOnMissing
  | fileFormat
  | keyStart
  | ignoredKeyStart
  | ignoredKeyPart
  | fileExtensions
  | checkExistence
  | parallelism
  | attachPartition
  | partitionField
  | readerOptions
  | fileSystem
  | commitColumn
  deriving DecidableEq

namespace SourceField

def all : List SourceField :=
  [basePath, fetchSize, strategy, latestOnMissing, fileFormat, keyStart, ignoredKeyStart,
    ignoredKeyPart, fileExtensions, checkExistence, parallelism, attachPartition, partitionField,
    readerOptions, fileSystem, commitColumn]

def name : SourceField → String
  | basePath => "base_path"
  | fetchSize => "num_instants_per_fetch"
  | strategy => "missing_checkpoint_strategy"
  | latestOnMissing => "read_latest_on_missing_checkpoint"
  | fileFormat => "source_file_format"
  | keyStart => "key_prefix"
  | ignoredKeyStart => "ignore_key_prefix"
  | ignoredKeyPart => "ignore_key_substring"
  | fileExtensions => "file_extensions"
  | checkExistence => "check_file_exists"
  | parallelism => "existence_check_parallelism"
  | attachPartition => "attach_source_partition_column"
  | partitionField => "partition_path_field"
  | readerOptions => "reader_options"
  | fileSystem => "fs_prefix"
  | commitColumn => "commit_column"

/-- The dotted key without its common start. -/
def shortKey : SourceField → String
  | basePath => "base.path"
  | fetchSize => "num.instants"
  | strategy => "missing.checkpoint.strategy"
  | latestOnMissing => "read.latest.on.missing.ckpt"
  | fileFormat => "file.format"
  | keyStart => "key.prefix"
  | ignoredKeyStart => "ignore.key.prefix"
  | ignoredKeyPart => "ignore.key.substring"
  | fileExtensions => "file.extensions"
  | checkExistence => "check.file.exists"
  | parallelism => "check.file.exists.parallelism"
  | attachPartition => "source.partition.exists"
  | partitionField => "partitionpath.field"
  | readerOptions => "spark.datasource.options"
  | fileSystem => "fs.prefix"
  | commitColumn => "commit.column"

def keyStem : String := "source.s3incr."

def key (f : SourceField) : String := keyStem ++ f.shortKey

def ofName? (name : String) : Option SourceField := all.find? (·.name = name)

/-- The field of a dotted key, given with or without its common start. -/
def ofKey? (key : String) : Option SourceField :=
  let short :=
    if Text.startsWith key keyStem then String.ofList (key.toList.drop keyStem.length) else key
  all.find? (·.shortKey = short)

/-- The name of the environment variable, in lower case. -/
def variableName (f : SourceField) : String := "s3incr_" ++ f.name

theorem mem_all (f : SourceField) : f ∈ all := by cases f <;> decide

end SourceField

namespace SourceSettings

/-- The value of a field. -/
def value (s : SourceSettings) : SourceField → Json
  | .basePath => .ofOption s.basePath
  | .fetchSize => .int s.fetchSize
  | .strategy => .ofOption (s.strategy.map (·.name))
  | .latestOnMissing => .bool s.latestOnMissing
  | .fileFormat => .str s.fileFormat
  | .keyStart => .ofOption s.keyStart
  | .ignoredKeyStart => .ofOption s.ignoredKeyStart
  | .ignoredKeyPart => .ofOption s.ignoredKeyPart
  | .fileExtensions => .ofOption s.fileExtensions
  | .checkExistence => .bool s.checkExistence
  | .parallelism => .int s.parallelism
  | .attachPartition => .bool s.attachPartition
  | .partitionField => .ofOption s.partitionField
  | .readerOptions => .ofOption s.readerOptions
  | .fileSystem => .str s.fileSystem
  | .commitColumn => .str s.commitColumn

def toProperties (s : SourceSettings) : Keyed Json := SourceField.all.map fun f => (f.key, s.value f)

def strategyOf (j : Json) : Except Violation Strategy :=
  match j with
  | .str name =>
      match Strategy.ofName? name with
      | some s => .ok s
      | none => .error .strategyExpected
  | _ => .error .strategyExpected

/-- The settings with a field read from a given value. -/
def assign (s : SourceSettings) (f : SourceField) (j : Json) : Except Violation SourceSettings :=
  match f with
  | .basePath => return { s with basePath := ← Lax.optional Lax.text j }
  | .fetchSize => return { s with fetchSize := ← Lax.positive j }
  | .strategy => return { s with strategy := ← Lax.optional strategyOf j }
  | .latestOnMissing => return { s with latestOnMissing := ← Lax.truth j }
  | .fileFormat => return { s with fileFormat := ← Lax.text j }
  | .keyStart => return { s with keyStart := ← Lax.optional Lax.text j }
  | .ignoredKeyStart => return { s with ignoredKeyStart := ← Lax.optional Lax.text j }
  | .ignoredKeyPart => return { s with ignoredKeyPart := ← Lax.optional Lax.text j }
  | .fileExtensions => return { s with fileExtensions := ← Lax.optional Lax.text j }
  | .checkExistence => return { s with checkExistence := ← Lax.truth j }
  | .parallelism => return { s with parallelism := ← Lax.positive j }
  | .attachPartition => return { s with attachPartition := ← Lax.truth j }
  | .partitionField => return { s with partitionField := ← Lax.optional Lax.text j }
  | .readerOptions => return { s with readerOptions := ← Lax.optional Lax.text j }
  | .fileSystem => return { s with fileSystem := ← Lax.text j }
  | .commitColumn => return { s with commitColumn := ← Lax.text j }

/-- Reads the fields that `raw` gives one after the other and collects what is wrong with them. -/
def fill (raw : SourceField → Option Json) :
    List SourceField → SourceSettings → SourceSettings × List Issue
  | [], s => (s, [])
  | f :: rest, s =>
      match raw f with
      | none => fill raw rest s
      | some j =>
          match s.assign f j with
          | .ok s => fill raw rest s
          | .error v =>
              let (s, issues) := fill raw rest s
              (s, ⟨[f.name], v⟩ :: issues)

/-- A given value goes before a variable, and that before the default. -/
def build (given : SourceField → Option Json) (around : Surroundings) :
    Except (List Issue) SourceSettings :=
  let raw (f : SourceField) : Option Json :=
    match given f with
    | some j => some j
    | none => (around.value? f.variableName).map Json.str
  match fill raw SourceField.all {} with
  | (s, []) => .ok s
  | (_, issues) => .error issues

/-- From fields by name, in any case; other names are ignored. -/
def ofFields (fields : Keyed Json) (around : Surroundings) : Except (List Issue) SourceSettings :=
  build (fun f => fields.getFolded? f.name) around

/-- The fields that dotted keys name, each with the last value given for it. -/
def fieldsOf (done : List (SourceField × Json)) :
    Keyed Json → Except ConfigurationFault (List (SourceField × Json))
  | [] => .ok done
  | (key, j) :: rest =>
      match SourceField.ofKey? key with
      | none => .error (.unknownProperty key)
      | some f => fieldsOf ((f, j) :: done) rest

def ofProperties (properties : Keyed Json) (around : Surroundings) :
    Except ConfigurationFault SourceSettings := do
  let given ← fieldsOf [] properties
  match build (fun f => given.lookup f) around with
  | .ok s => return s
  | .error issues => throw (.invalidProperties properties issues)

/-- The comma-separated entries that are not blank, without the blanks around them. -/
def entries (raw : String) : List String :=
  ((Text.split ',' raw).map Text.strip).filter (· ≠ "")

/-- The extensions that a key may end with. -/
def extensions (s : SourceSettings) : List String :=
  match s.fileExtensions with
  | some raw => entries (if raw = "" then s.fileFormat else raw)
  | none => entries s.fileFormat

def scheme (s : SourceSettings) : String := Text.lowercase s.fileSystem

/-- The name of the partition field, without the type that may follow a colon. -/
def partitionKey (s : SourceSettings) : Option String :=
  match s.partitionField with
  | none => none
  | some field =>
      let name := String.ofList (field.toList.takeWhile (· ≠ ':'))
      if name = "" then none else some name

end SourceSettings
end ObjectIntake.Settings
