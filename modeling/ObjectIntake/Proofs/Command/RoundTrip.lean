import Mathlib.Data.List.Perm.Basic
import ObjectIntake.Proofs.Command.Options
import ObjectIntake.Proofs.Text.Utf8

/-!
The settings of a source as options, one for each field, from which the same settings are built again wherever the
program runs, if the file of assignments there is a text.
-/
namespace ObjectIntake.Settings.SourceSettings

/-- Settings that were built, from fields by name or from dotted keys. -/
def Obtained (s : SourceSettings) : Prop :=
  (∃ fields d, fromFields fields d = .ok s) ∨ ∃ properties d, fromProperties properties d = .ok s

/-- One option for each field: its full key, an equals sign and the spelling of its value. -/
def options (s : SourceSettings) : List String := s.toProperties.map fun (key, j) => key ++ "=" ++ spelling j

theorem exists_build_of_ofProperties {properties : Keyed Json} {around : Surroundings} {s : SourceSettings}
    (h : ofProperties properties around = .ok s) : ∃ given, build given around = .ok s := by
  obtain ⟨given, -, hbuild⟩ := Work.bind_eq_ok.mp h
  refine ⟨fun f => given.lookup f, ?_⟩
  split at hbuild
  next t ht =>
    cases hbuild
    exact ht
  next => cases hbuild

theorem Obtained.exists_build {s : SourceSettings} (h : s.Obtained) : ∃ given around, build given around = .ok s := by
  rcases h with ⟨fields, d, h⟩ | ⟨properties, d, h⟩
  · obtain ⟨around, -, hbuild⟩ := Work.bind_eq_ok.mp h
    split at hbuild
    next t ht =>
      cases hbuild
      exact ⟨_, around, ht⟩
    next => cases hbuild
  · obtain ⟨-, -, h⟩ := Work.bind_eq_ok.mp h
    obtain ⟨around, -, hbuild⟩ := Work.bind_eq_ok.mp h
    split at hbuild
    next t ht =>
      cases hbuild
      obtain ⟨given, hgiven⟩ := exists_build_of_ofProperties ht
      exact ⟨given, around, hgiven⟩
    next => cases hbuild

/-- Every field of built settings has a value that it can have. -/
theorem Obtained.has {s : SourceSettings} (h : s.Obtained) (f : SourceField) : f.kind.Has (s.value f) := by
  obtain ⟨given, around, hbuild⟩ := h.exists_build
  have hsettles := build_eq_ok_iff.mp hbuild f
  cases hdrawn : drawn given around f with
  | some j =>
    rw [hdrawn] at hsettles
    exact Kind.has_of_read hsettles
  | none =>
    rw [hdrawn] at hsettles
    change s.value f = _ at hsettles
    rw [hsettles]
    cases f
    all_goals constructor
    all_goals decide

theorem lastGiven_toProperties (s : SourceSettings) (f : SourceField) :
    lastGiven s.toProperties f = some (s.value f) := by
  have hkey (g : SourceField) : SourceField.ofKey? g.key = some g := SourceField.ofKey?_eq_some_iff.mpr (.inr rfl)
  unfold lastGiven toProperties
  rw [List.filter_map]
  have hnamed : ((fun p : String × Json => decide (SourceField.ofKey? p.1 = some f)) ∘ fun g => (g.key, s.value g)) =
      fun g => decide (g = f) := by
    funext g
    simp [hkey]
  rw [hnamed, SourceField.filter_all]
  rfl

theorem checkKeys_of_ofProperties {properties : Keyed Json} {around : Surroundings} {s : SourceSettings}
    (h : ofProperties properties around = .ok s) : checkKeys properties = .ok () := by
  obtain ⟨given, hgiven, -⟩ := Work.bind_eq_ok.mp h
  rw [checkKeys, hgiven]

/-- Settings that come from the properties whatever is set come from them where the file can be read. -/
theorem fromProperties_of_ofProperties {properties : Keyed Json} {s : SourceSettings}
    (h : ∀ around, ofProperties properties around = .ok s) (d : Deployment) :
    fromProperties properties d = d.surroundings.map fun _ => s := by
  unfold fromProperties
  rw [checkKeys_of_ofProperties (h ⟨d.environment, none, d.depth⟩)]
  cases hd : d.surroundings with
  | error e => rfl
  | ok around =>
    simp only [bind, Except.bind, h around]
    rfl

end ObjectIntake.Settings.SourceSettings

namespace ObjectIntake.Settings.Deployment
open Text

variable {d : Deployment}

/-- The file, if there is one, is a text in UTF-8. -/
def FileIsText (d : Deployment) : Prop := ∀ bytes ∈ d.file, ∃ text : List Char, bytes = Utf8.encode text

theorem surroundings_of_text (h : d.FileIsText) : ∃ around, d.surroundings = .ok around := by
  unfold surroundings
  cases hfile : d.file with
  | none => exact ⟨_, rfl⟩
  | some bytes =>
    obtain ⟨text, rfl⟩ := h bytes hfile
    simp only [Utf8.decode_encode]
    exact ⟨_, rfl⟩

theorem surroundings_of_noText (h : ¬ d.FileIsText) : d.surroundings = .error .notUtf8 := by
  unfold surroundings
  cases hfile : d.file with
  | none => exact absurd (fun bytes hbytes => nomatch hfile ▸ hbytes) h
  | some bytes =>
    cases hdecode : Utf8.decode bytes with
    | none => simp only [hdecode]
    | some text =>
      refine absurd (fun bytes' hbytes => ⟨text, ?_⟩) h
      rw [hfile] at hbytes
      cases hbytes
      exact Utf8.encode_of_decode hdecode

end ObjectIntake.Settings.Deployment

namespace ObjectIntake.Command
open Settings

/-- Settings that come from the options whatever is set come from them where the file can be read. -/
theorem settingsAt_of_sourceSettings {items : List String} {s : SourceSettings}
    (h : ∀ around, sourceSettings items around = .ok s) (d : Deployment) :
    settingsAt items d = d.surroundings.map fun _ => s := by
  obtain ⟨given, hgiven, hsettings⟩ := Work.bind_eq_ok.mp (h ⟨d.environment, none, d.depth⟩)
  have hkeys : SourceSettings.checkKeys (given.map fun e => (e.1, .str e.2)) = .ok () := by
    cases given with
    | nil => rfl
    | cons entry given =>
      dsimp only at hsettings
      split at hsettings
      next t ht => exact SourceSettings.checkKeys_of_ofProperties ht
      next => cases hsettings
  unfold settingsAt
  rw [hgiven]
  change (SourceSettings.checkKeys (given.map fun e => (e.1, .str e.2)) >>= fun _ =>
    d.surroundings >>= sourceSettings items) = _
  rw [hkeys]
  cases hd : d.surroundings with
  | error e => rfl
  | ok around => exact h around

/-- The settings of all fields, each by its full key. -/
def settingsFor (s : SourceSettings) : List Setting :=
  SourceField.all.map fun f => ⟨f, true, spelling (s.value f)⟩

theorem options_spell (s : SourceSettings) : List.Forall₂ Setting.Spells s.options (settingsFor s) := by
  have hkey : ∀ f : SourceField, '=' ∉ f.key.toList ∧ Text.strip f.key = f.key := by
    intro f
    cases f <;> decide +kernel
  unfold SourceSettings.options SourceSettings.toProperties settingsFor
  rw [List.map_map, List.forall₂_map_left_iff, List.forall₂_map_right_iff, List.forall₂_same]
  intro f _
  exact ⟨f.key, rfl, hkey f⟩

theorem settingsOf_settingsFor (s : SourceSettings) (f : SourceField) :
    settingsOf (settingsFor s) f = [⟨f, true, spelling (s.value f)⟩] := by
  unfold settingsOf settingsFor
  rw [List.filter_map]
  change (SourceField.all.filter fun g => decide (g = f)).map _ = _
  rw [SourceField.filter_all]
  rfl

/-- Built settings are built again from their options in any order, whatever is set elsewhere. -/
theorem sourceSettings_of_perm {s : SourceSettings} (hs : s.Obtained) (hdigits : ∀ f, Spellable (s.value f))
    {items : List String} (hperm : items.Perm s.options) (around : Surroundings) :
    sourceSettings items around = .ok s := by
  obtain ⟨settings, hspell, hsettings⟩ := List.perm_comp_forall₂ hperm (options_spell s)
  have hone (f : SourceField) : settingsOf settings f = [⟨f, true, spelling (s.value f)⟩] := by
    have hfield := hsettings.filter (·.field = f)
    rw [show (settingsFor s).filter (·.field = f) = _ from settingsOf_settingsFor s f] at hfield
    exact List.perm_singleton.mp hfield
  have hne : settings ≠ [] := by
    rintro rfl
    cases hone .basePath
  rw [sourceSettings_eq_ok_iff hspell hne]
  intro f
  have hchosen : chosen settings f = some (.str (spelling (s.value f))) := by
    rw [chosen, hone f]
    rfl
  rw [SourceSettings.drawn, hchosen]
  exact (hs.has f).read_spelling (hdigits f)

/-- They are built again from their properties as they are. -/
theorem ofProperties_toProperties {s : SourceSettings} (hs : s.Obtained) (around : Surroundings) :
    SourceSettings.ofProperties s.toProperties around = .ok s := by
  have hknown : ∀ p ∈ s.toProperties, (SourceField.ofKey? p.1).isSome := by
    intro p hp
    obtain ⟨f, -, rfl⟩ := List.mem_map.mp hp
    rw [SourceField.ofKey?_eq_some_iff.mpr (.inr rfl)]
    rfl
  rw [SourceSettings.ofProperties_eq_ok_iff hknown]
  intro f
  rw [SourceSettings.drawn, SourceSettings.lastGiven_toProperties]
  exact (hs.has f).read

/-- Settings with a value of each kind, two of which contain an equals sign, blanks and a line end. -/
def sampleSettings : SourceSettings where
  keyStart := some "a=b"
  ignoredKeyPart := some " \n="
  fetchSize := 12
  strategy := some .latest
  checkExistence := true
  fileFormat := ""

theorem sampleSettings_obtained : sampleSettings.Obtained :=
  .inl ⟨[("key_prefix", .str "a=b"), ("ignore_key_substring", .str " \n="), ("num_instants_per_fetch", .str "+1_2"),
      ("missing_checkpoint_strategy", .str "READ_LATEST"), ("check_file_exists", .str "on"),
      ("source_file_format", .str ""), ("base_path", .str "\t")], { environment := [], file := none },
    Work.eq_ok_of_toOption (by decide +kernel)⟩

theorem sampleSettings_spellable (f : SourceField) : Spellable (sampleSettings.value f) := by
  cases f
  all_goals
    intro n hn
    cases hn
  all_goals decide

/-- An environment and a file of assignments that set other values. -/
def otherDeployment : Deployment where
  environment := [("S3INCR_BASE_PATH", "lake"), ("S3INCR_KEY_PREFIX", "c")]
  file := some (Text.Utf8.encode "S3INCR_FS_PREFIX=gß".toList)

/-- The same environment, and a file that breaks off in the middle of a character. -/
def brokenDeployment : Deployment := { otherDeployment with file := some [0x53, 0x3D, 0xC3] }

end ObjectIntake.Command
