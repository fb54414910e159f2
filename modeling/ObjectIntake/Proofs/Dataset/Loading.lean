import Mathlib.Data.List.Forall2
import ObjectIntake.Proofs.Dataset.Assembly
import ObjectIntake.Proofs.Dataset.Partition
import ObjectIntake.Proofs.Fetch.Taxonomy
import ObjectIntake.Proofs.Json.Soundness

/-!
Loading a batch is all or nothing. The loader is called once for all paths, or not at all because something was
refused before, and a partition column holds in each row what the path of its own file says.
-/
namespace ObjectIntake.Dataset
open Settings Memory ObjectPath

/-- The rows of the files, each with its path, in the order of the paths. -/
def fileRows (files : Files) (paths : List String) : List (String × Keyed Json) :=
  paths.flatMap fun path => (rowsOf files path).map fun row => (path, row)

/-- The row of a batch that has the column added to the row of a file: its value is what the path says. -/
structure PartitionColumn.Labels (c : PartitionColumn) (row labelled : String × Keyed Json) : Prop where
  path : labelled.1 = row.1
  value : ∃ value, c.Says row.1 value ∧ labelled.2.get? c.name = some (.ofOption value)
  others : ∀ name, name ≠ c.name → labelled.2.get? name = row.2.get? name

theorem derive_labels {c : PartitionColumn} (h : '/' ∉ c.marker.toList) (t : Table) :
    List.Forall₂ c.Labels t.rows (t.derive c).rows := by
  unfold Table.derive
  rw [List.forall₂_map_right_iff, List.forall₂_same]
  rintro ⟨path, row⟩ -
  refine ⟨rfl, ⟨_, c.says_value? h path, ?_⟩, fun name hname => ?_⟩
  · exact (Keyed.get?_put ..).trans (if_pos rfl)
  · exact (Keyed.get?_put ..).trans (if_neg hname)

/-- The reader gives up on the options: a number in them is too long, or they are nested too deep. -/
def GivesUpOn (depth : Nat) (raw : Option String) : Prop :=
  ∃ text fault, raw = some text ∧ text ≠ "" ∧ Json.read depth text = .error fault ∧ fault.kind.isLimit = true

theorem readOptions_some (depth : Nat) {text : String} (h : text ≠ "") :
    readOptions depth (some text) =
      match Json.read depth text with
      | .ok (.obj options) => .ok options
      | .ok _ => .error (.configuration (.optionsNotObject text))
      | .error ⟨.integerTooLong digits, _⟩ => .error (.numeralTooLong digits)
      | .error ⟨.nestedTooDeep, _⟩ => .error .nestedTooDeep
      | .error _ => .error (.configuration (.optionsUnreadable text)) := by
  unfold readOptions
  split
  next hnone => cases hnone
  next hempty => exact absurd (Option.some.inj hempty) h
  next _ _ _ hsome =>
    obtain rfl := Option.some.inj hsome
    rfl

/-- Options on which the reader gives up are those that fail, but not as a fault of the configuration. -/
theorem givesUpOn_iff {depth : Nat} {raw : Option String} :
    GivesUpOn depth raw ↔ ∃ e, readOptions depth raw = .error e ∧ ∀ fault, e ≠ .configuration fault := by
  have hempty {raw : Option String} (h : raw = none ∨ raw = some "") :
      GivesUpOn depth raw ↔ ∃ e, readOptions depth raw = .error e ∧ ∀ fault, e ≠ .configuration fault := by
    rcases h with rfl | rfl <;> simp [GivesUpOn, readOptions]
  cases raw with
  | none => exact hempty (.inl rfl)
  | some text =>
    by_cases hne : text = ""
    · exact hempty (.inr (congrArg some hne))
    have hgives : GivesUpOn depth (some text) ↔
        ∃ fault, Json.read depth text = .error fault ∧ fault.kind.isLimit = true := by
      simp [GivesUpOn, hne]
    rw [hgives, readOptions_some depth hne]
    cases Json.read depth text with
    | ok j => cases j <;> simp
    | error fault =>
      obtain ⟨kind, left⟩ := fault
      cases kind <;> simp [Json.FaultKind.isLimit]

theorem columnOf_of_partitionsBy {s : SourceSettings} {key : String} (h : s.PartitionsBy key) (first : String)
    (rest : List String) :
    columnOf s.live (first :: rest) =
      match levels key first with
      | 0 => .ok none
      | 1 => .ok (some ⟨key⟩)
      | _ => .error (.configuration (.manyPartitionLevels key first)) := by
  obtain ⟨hattach, hkey⟩ := SourceSettings.partitionsBy_iff.mp h
  have hattach' : s.live.attachPartition = true := hattach
  have hkey' : s.live.partitionKey = some key := hkey
  unfold columnOf
  rw [LiveSettings.check_live, hattach', hkey']
  simp only [bind, Except.bind, PartitionColumn.infer_eq]
  rcases levels key first with _ | _ | _
  · rfl
  · rfl
  · rfl

theorem columnOf_of_not_partitionsBy {s : SourceSettings} (h : ∀ key, ¬ s.PartitionsBy key) (paths : List String) :
    columnOf s.live paths = .ok none := by
  unfold columnOf
  rw [LiveSettings.check_live]
  simp only [bind, Except.bind]
  split
  next key hattach hkey => exact absurd (SourceSettings.partitionsBy_iff.mpr ⟨hattach, hkey⟩) (h key)
  next => rfl

/-- A column is attached, or none is told from the first path, or too many segments tell one. -/
theorem columnOf_cases (s : SourceSettings) (first : String) (rest : List String) :
    ((∀ key, s.PartitionsBy key → levels key first = 0) ∧ columnOf s.live (first :: rest) = .ok none) ∨
    (∃ key, s.PartitionsBy key ∧ levels key first = 1 ∧ columnOf s.live (first :: rest) = .ok (some ⟨key⟩)) ∨
    ∃ key, s.PartitionsBy key ∧ 1 < levels key first ∧
      columnOf s.live (first :: rest) = .error (.configuration (.manyPartitionLevels key first)) := by
  by_cases hnone : ∀ key, ¬ s.PartitionsBy key
  · exact .inl ⟨fun key hkey => absurd hkey (hnone key), columnOf_of_not_partitionsBy hnone _⟩
  · obtain ⟨key, hkey⟩ : ∃ key, s.PartitionsBy key := by simpa using hnone
    have hcolumn := columnOf_of_partitionsBy hkey first rest
    match hlevels : levels key first with
    | 0 =>
      rw [hlevels] at hcolumn
      exact .inl ⟨fun other hother => hkey.unique hother ▸ hlevels, hcolumn⟩
    | 1 =>
      rw [hlevels] at hcolumn
      exact .inr (.inl ⟨key, hkey, hlevels, hcolumn⟩)
    | n + 2 =>
      rw [hlevels] at hcolumn
      exact .inr (.inr ⟨key, hkey, by omega, hcolumn⟩)

section Assembled

variable {site : Site} {s : SourceSettings} {paths : List String} {options : Keyed Json}
  (hoptions : readOptions site.depth s.readerOptions = .ok options)
include hoptions

theorem assembled_of_column {column : Option PartitionColumn} (hcolumn : columnOf s.live paths = .ok column) :
    assembled site s.live paths =
      let table := Table.load site.files s.fileFormat options paths
      .ok (column.elim table table.derive) := by
  have hoptions' : readOptions site.depth s.live.readerOptions = .ok options := hoptions
  unfold assembled
  rw [LiveSettings.check_live, hoptions', hcolumn]
  cases column with
  | none => rfl
  | some column => rfl

theorem assembled_of_no_column {e : Failure} (hcolumn : columnOf s.live paths = .error e) :
    assembled site s.live paths = .error e := by
  have hoptions' : readOptions site.depth s.live.readerOptions = .ok options := hoptions
  unfold assembled
  rw [LiveSettings.check_live, hoptions', hcolumn]
  rfl

end Assembled

/-- The table of a batch: rows of the files in the order of the paths, loaded with the format and the options that are
configured. Where one segment of the first path tells the partition column, each row is labelled with what its own
path says, and where none does, or no column is asked for, the rows are those of the files. -/
structure LoadedFrom (site : Site) (s : SourceSettings) (first : String) (rest : List String) (table : Table) :
    Prop where
  format : table.format = s.fileFormat
  options : readOptions site.depth s.readerOptions = .ok table.options
  labelled : ∀ key, s.PartitionsBy key → levels key first = 1 →
    List.Forall₂ (PartitionColumn.Labels ⟨key⟩) (fileRows site.files (first :: rest)) table.rows
  plain : (∀ key, s.PartitionsBy key → levels key first = 0) → table.rows = fileRows site.files (first :: rest)

section LoadedFrom

variable {site : Site} {s : SourceSettings} {first : String} {rest : List String} {options : Keyed Json}
  (hoptions : readOptions site.depth s.readerOptions = .ok options)
include hoptions

theorem loadedFrom_load (hlevels : ∀ key, s.PartitionsBy key → levels key first = 0) :
    LoadedFrom site s first rest (Table.load site.files s.fileFormat options (first :: rest)) where
  format := rfl
  options := hoptions
  labelled key hkey hone := by
    rw [hlevels key hkey] at hone
    cases hone
  plain _ := rfl

theorem loadedFrom_derive {key : String} (hkey : s.PartitionsBy key) (hlevels : levels key first = 1) :
    LoadedFrom site s first rest ((Table.load site.files s.fileFormat options (first :: rest)).derive ⟨key⟩) where
  format := rfl
  options := hoptions
  labelled other hother _ := by
    have hpos : 0 < levels key first := by omega
    rw [← hkey.unique hother]
    exact derive_labels (PartitionColumn.slash_notMem_marker hpos)
      (Table.load site.files s.fileFormat options (first :: rest))
  plain hzero := by
    rw [hzero key hkey] at hlevels
    cases hlevels

end LoadedFrom

/-- A batch is loaded whole or not at all. If the options can be read and at most one segment of the first path tells
the partition column, the loader is called once, for all paths, and otherwise nothing is done. That too many segments
tell the column is a fault of the configuration, unless the reader gives up on the options before. -/
theorem loads_all_or_nothing (answers : Probe → String → Presence) (channel : String) (s : SourceSettings)
    (first : String) (rest : List String) (scene : Scene Site) :
    let run := (assemble (probing answers) channel s.live (first :: rest)).runIn scene
    (∀ e, run.1 = .error e → run.2.world = scene.world) ∧
      (∀ table, run.1 = .ok table →
        run.2.world = scene.world.noteLoad (first :: rest) ∧ LoadedFrom scene.world s first rest table) ∧
      ((∃ table, run.1 = .ok table) ↔
        (∃ options, readOptions scene.world.depth s.readerOptions = .ok options) ∧
          ∀ key, s.PartitionsBy key → levels key first ≤ 1) ∧
      ∀ key, s.PartitionsBy key → 1 < levels key first →
        ((∃ fault, run.1 = .error (.configuration fault)) ↔ ¬ GivesUpOn scene.world.depth s.readerOptions) := by
  dsimp only
  obtain ⟨hresult, hworld⟩ := assemble_gives answers channel s.live (first :: rest) scene.world scene rfl
  rw [hresult, hworld]
  have hok {table : Table} (h : LoadedFrom scene.world s first rest table) :
      ∀ other, (.ok table : Except Failure Table) = .ok other →
        siteAfter scene.world (first :: rest) (.ok table) = scene.world.noteLoad (first :: rest) ∧
          LoadedFrom scene.world s first rest other := by
    rintro _ ⟨⟩
    exact ⟨rfl, h⟩
  cases hoptions : readOptions scene.world.depth s.readerOptions with
  | error e =>
    rw [assembled_of_unreadable hoptions]
    refine ⟨fun _ _ => rfl, (fun _ h => nomatch h), by simp, fun _ _ _ => ?_⟩
    simp [givesUpOn_iff, hoptions]
  | ok options =>
    have hnot : ¬ GivesUpOn scene.world.depth s.readerOptions := by simp [givesUpOn_iff, hoptions]
    rcases columnOf_cases s first rest with
      ⟨hlevels, hcolumn⟩ | ⟨key, hkey, hlevels, hcolumn⟩ | ⟨key, hkey, hlevels, hcolumn⟩
    · have hle : ∀ key, s.PartitionsBy key → levels key first ≤ 1 := fun key hkey => by simp [hlevels key hkey]
      rw [assembled_of_column hoptions hcolumn]
      refine ⟨(fun _ h => nomatch h), hok (loadedFrom_load hoptions hlevels), by simpa using hle, ?_⟩
      exact fun key hkey hmany => absurd (hle key hkey) (by omega)
    · have hle : ∀ other, s.PartitionsBy other → levels other first ≤ 1 := fun other hother => by
        simp [← hkey.unique hother, hlevels]
      rw [assembled_of_column hoptions hcolumn]
      refine ⟨(fun _ h => nomatch h), hok (loadedFrom_derive hoptions hkey hlevels), by simpa using hle, ?_⟩
      exact fun other hother hmany => absurd (hle other hother) (by omega)
    · rw [assembled_of_no_column hoptions hcolumn]
      refine ⟨fun _ _ => rfl, (fun _ h => nomatch h), ?_, fun _ _ _ => by simp [hnot]⟩
      simpa using ⟨key, hkey, hlevels⟩

/-- A column for the day, which its own directory names. -/
def dailySettings : SourceSettings := { partitionField := some "dt:string" }

/-- The second file lies in no directory of a day. -/
def dailyPaths : List String := ["s3://b/dt=2024-01-01/a.parquet", "s3://b/dt/b.parquet"]

theorem partitionsBy_dailySettings : dailySettings.PartitionsBy "dt" :=
  ⟨rfl, by decide, by decide, "dt:string", rfl, .inr ⟨"string", rfl⟩⟩

theorem loads_all_or_nothing_dailyPaths :
    ∃ table, ((assemble (probing Probe.presence) "source" dailySettings.live dailyPaths).runIn (Scene.start {})).1 =
        .ok table ∧
      List.Forall₂ (PartitionColumn.Labels ⟨"dt"⟩) (fileRows [] dailyPaths) table.rows := by
  have hlevels : levels "dt" "s3://b/dt=2024-01-01/a.parquet" = 1 := by decide
  obtain ⟨-, hloaded, hiff, -⟩ := loads_all_or_nothing Probe.presence "source" dailySettings
    "s3://b/dt=2024-01-01/a.parquet" ["s3://b/dt/b.parquet"] (Scene.start {})
  obtain ⟨table, htable⟩ := hiff.mpr ⟨⟨[], rfl⟩, fun key hkey => by
    rw [hkey.unique partitionsBy_dailySettings, hlevels]⟩
  exact ⟨table, htable, (hloaded table htable).2.labelled "dt" partitionsBy_dailySettings hlevels⟩

/-- Two directories name the day, and the options of the reader have a number that is too long. -/
def nestedDays : SourceSettings :=
  { partitionField := some "dt", readerOptions := some (Source.longOptions (Numeral.digitLimit + 1)) }

/-- Here too many segments tell the partition column, which is not reported as a fault of the configuration. -/
theorem many_levels_unreported :
    nestedDays.PartitionsBy "dt" ∧ 1 < levels "dt" "s3://b/dt=1/dt=2/a.parquet" ∧
      ¬ ∃ fault, ((assemble (probing Probe.presence) "source" nestedDays.live ["s3://b/dt=1/dt=2/a.parquet"]).runIn
        (Scene.start {})).1 = .error (.configuration fault) := by
  refine ⟨⟨rfl, by decide, by decide, "dt", rfl, .inl rfl⟩, by decide, ?_⟩
  have hoptions : readOptions ({} : Site).depth nestedDays.readerOptions =
      .error (.numeralTooLong (Numeral.digitLimit + 1)) := Source.readOptions_longOptions _ (Nat.lt_succ_self _)
  obtain ⟨hresult, -⟩ := assemble_gives Probe.presence "source" nestedDays.live ["s3://b/dt=1/dt=2/a.parquet"] {}
    (Scene.start {}) rfl
  rw [hresult, assembled_of_unreadable hoptions]
  rintro ⟨fault, ⟨⟩⟩

end ObjectIntake.Dataset
