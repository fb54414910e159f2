import ObjectIntake.Failure
import ObjectIntake.Settings.Lax
import ObjectIntake.Settings.Surroundings

/-! The settings of an engine session, and the calls that open one with them. -/
namespace ObjectIntake.Settings

structure SessionSettings where
  appName : String
  master : String
  driverMemory : String
  warehouse : String
  endpoint : Option String
  accessKey : Option String
  secretKey : Option String

inductive SessionCall where
  | appName (name : String)
  | master (url : String)
  | config (key value : String)
  | getOrCreate
  deriving DecidableEq

namespace SessionSettings

/-- What is given for a setting, or else its variable. -/
def raw (given : Keyed Json) (around : Surroundings) (name : String) : Option Json :=
  match given.getFolded? name with
  | some j => some j
  | none => (around.value? ("spark_" ++ name)).map Json.str

def read {α : Type} (name : String) (fallback : α) (value : Json → Except Violation α)
    (raw : String → Option Json) : α × List Issue :=
  match raw name with
  | none => (fallback, [])
  | some j =>
      match value j with
      | .ok a => (a, [])
      | .error v => (fallback, [⟨[name], v⟩])

/-- A text or null. -/
def nullable (j : Json) : Except Violation (Option String) :=
  match j with
  | .null => .ok none
  | j => (Lax.text j).map some

def build (given : Keyed Json) (around : Surroundings) : Except (List Issue) SessionSettings :=
  let raw := raw given around
  let (appName, i1) := read "app_name" "s3-events-incr-source" Lax.text raw
  let (master, i2) := read "master_url" "local[*]" Lax.text raw
  let (driverMemory, i3) := read "driver_memory" "1g" Lax.text raw
  let (warehouse, i4) := read "warehouse_dir" "/tmp/spark-warehouse" Lax.text raw
  let (endpoint, i5) := read "s3_endpoint" none nullable raw
  let (accessKey, i6) := read "aws_access_key_id" none nullable raw
  let (secretKey, i7) := read "aws_secret_access_key" none nullable raw
  match i1 ++ i2 ++ i3 ++ i4 ++ i5 ++ i6 ++ i7 with
  | [] => .ok ⟨appName, master, driverMemory, warehouse, endpoint, accessKey, secretKey⟩
  | issues => .error issues

/-- An empty text counts as absent. -/
def present : Option String → Option String
  | some s => if s = "" then none else some s
  | none => none

/-- The calls that open a session: the table format always, object store access where it is configured. -/
def calls (s : SessionSettings) : List SessionCall :=
  [.appName s.appName, .master s.master,
    .config "spark.sql.extensions" "io.delta.sql.DeltaSparkSessionExtension",
    .config "spark.sql.catalog.spark_catalog" "org.apache.spark.sql.delta.catalog.DeltaCatalog",
    .config "spark.sql.warehouse.dir" s.warehouse,
    .config "spark.driver.memory" s.driverMemory] ++
  (match present s.endpoint with
    | some endpoint =>
        [.config "spark.hadoop.fs.s3a.endpoint" endpoint,
          .config "spark.hadoop.fs.s3a.path.style.access" "true"]
    | none => []) ++
  (match present s.accessKey, present s.secretKey with
    | some key, some secret =>
        [.config "spark.hadoop.fs.s3a.access.key" key,
          .config "spark.hadoop.fs.s3a.secret.key" secret]
    | _, _ => []) ++
  [.getOrCreate]

end SessionSettings
end ObjectIntake.Settings
