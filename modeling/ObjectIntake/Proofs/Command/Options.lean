import Mathlib.Data.List.Forall2
import Mathlib.Data.List.Induction
import ObjectIntake.Command.Options
import ObjectIntake.Proofs.Keyed
import ObjectIntake.Proofs.Settings.Properties

/-!
Options on the command line as settings of fields. A field that is named in both of its spellings has the last
value of the spelling that came up second.
-/
namespace ObjectIntake.Command
open Settings

/-- What one option sets. -/
structure Setting where
  field : SourceField
  /-- The key has the common start of all keys. -/
  full : Bool
  value : String
  deriving DecidableEq

namespace Setting

def key (x : Setting) : String := if x.full then x.field.key else x.field.shortKey

def entry (x : Setting) : String × String := (x.key, x.value)

/-- The option is the key, perhaps with blanks around it, an equals sign and the value. -/
def Spells (item : String) (x : Setting) : Prop :=
  ∃ written : String, item = written ++ "=" ++ x.value ∧ '=' ∉ written.toList ∧ Text.strip written = x.key

theorem ofKey?_key (x : Setting) : SourceField.ofKey? x.key = some x.field := by
  rw [SourceField.ofKey?_eq_some_iff, key]
  cases x.full
  · exact .inl rfl
  · exact .inr rfl

theorem key_ne_empty (x : Setting) : x.key ≠ "" := by
  intro h
  have hfield := x.ofKey?_key
  rw [h, show SourceField.ofKey? "" = none by decide +kernel] at hfield
  cases hfield

theorem full_eq_of_key_eq {x y : Setting} (hfield : x.field = y.field) (hkey : x.key = y.key) : x.full = y.full := by
  have hspellings : ∀ f : SourceField, f.key ≠ f.shortKey := by
    intro f
    cases f <;> decide +kernel
  unfold key at hkey
  rw [hfield] at hkey
  cases hx : x.full <;> cases hy : y.full <;> simp_all [Ne.symm]

theorem key_eq_of_full_eq {x y : Setting} (hfield : x.field = y.field) (hfull : x.full = y.full) : x.key = y.key := by
  unfold key
  rw [hfield, hfull]

/-- Options are read into the entries of their settings, put one after the other. -/
theorem properties_of_spells {items : List String} {settings : List Setting} (done : Keyed String)
    (h : List.Forall₂ Spells items settings) : properties done items = .ok (done.merge (settings.map entry)) := by
  induction h generalizing done with
  | nil => rfl
  | @cons item x items settings hitem _ ih =>
    obtain ⟨written, rfl, hwritten, hstrip⟩ := hitem
    have htext : (written ++ "=" ++ x.value).toList = written.toList ++ '=' :: x.value.toList := by simp
    have hbefore : ∀ c ∈ written.toList, decide (c ≠ '=') = true := by
      intro c hc
      rw [decide_eq_true_eq]
      rintro rfl
      exact hwritten hc
    unfold properties
    simp only [htext]
    rw [List.takeWhile_append_of_pos hbefore, List.dropWhile_append_of_pos hbefore]
    simp [hstrip, x.key_ne_empty, ih, Keyed.merge, entry]

end Setting

/-- The settings of a field. -/
def settingsOf (settings : List Setting) (f : SourceField) : List Setting := settings.filter (·.field = f)

/-- The setting that a field takes: the last one in the spelling that came up second, or else the last one. -/
def prevailing : List Setting → Option Setting
  | [] => none
  | x :: rest => (rest.filter (·.full ≠ x.full)).getLast?.or (x :: rest).getLast?

section Dictionary

variable {f : SourceField}

theorem filter_entries (settings : List Setting) (f : SourceField) :
    (Keyed.merge [] (settings.map Setting.entry)).filter (fun e => SourceField.ofKey? e.1 = some f) =
      Keyed.merge [] ((settingsOf settings f).map Setting.entry) := by
  have hkept : (settings.map Setting.entry).filter (fun e => decide (SourceField.ofKey? e.1 = some f)) =
      (settingsOf settings f).map Setting.entry := by
    rw [List.filter_map, settingsOf]
    congr 2
    funext x
    simp [Setting.entry, x.ofKey?_key]
  rw [Keyed.filter_merge (fun key => decide (SourceField.ofKey? key = some f)), hkept, List.filter_nil]

/-- The dictionary holds at most two entries for a field: one for the spelling that came up first, one for the other. -/
theorem merge_entries {x : Setting} {rest : List Setting} (h : ∀ y ∈ rest, y.field = x.field) :
    ∃ first : Setting, first.field = x.field ∧ first.full = x.full ∧
      Keyed.merge [] ((x :: rest).map Setting.entry) =
        first.entry :: ((rest.filter (·.full ≠ x.full)).getLast?.map Setting.entry).toList ∧
      ((rest.filter (·.full ≠ x.full)).getLast? = none → (x :: rest).getLast? = some first) := by
  induction rest using List.reverseRecOn with
  | nil => exact ⟨x, rfl, rfl, rfl, fun _ => rfl⟩
  | append_singleton rest y ih =>
    have hy : y.field = x.field := h y (by simp)
    obtain ⟨first, hfield, hfull, hmerge, -⟩ := ih fun z hz => h z (List.mem_append_left _ hz)
    have hconcat : Keyed.merge [] ((x :: (rest ++ [y])).map Setting.entry) =
        (Keyed.merge [] ((x :: rest).map Setting.entry)).put y.key y.value := by
      rw [← List.cons_append, List.map_append]
      exact Keyed.merge_concat ..
    rw [hconcat, hmerge]
    by_cases hyfull : y.full = x.full
    · have hkey : first.key = y.key := Setting.key_eq_of_full_eq (hfield.trans hy.symm) (hfull.trans hyfull.symm)
      refine ⟨y, hy, hyfull, ?_, fun _ => by simp [List.getLast?_cons]⟩
      simp [Keyed.put, Setting.entry, hkey, hyfull]
    · have hkey : first.key ≠ y.key := by
        intro heq
        exact hyfull ((Setting.full_eq_of_key_eq (hfield.trans hy.symm) heq).symm.trans hfull)
      have hlast : ((rest ++ [y]).filter (·.full ≠ x.full)).getLast? = some y := by simp [hyfull]
      refine ⟨first, hfield, hfull, ?_, fun hnone => absurd (hlast.symm.trans hnone) (by simp)⟩
      rw [hlast]
      cases hother : (rest.filter (·.full ≠ x.full)).getLast? with
      | none => simp [Keyed.put, Setting.entry, hkey]
      | some second =>
        obtain ⟨hmem, hne⟩ := List.mem_filter.mp (List.mem_of_getLast? hother)
        have hsame : second.key = y.key := by
          refine Setting.key_eq_of_full_eq ((h second (List.mem_append_left _ hmem)).trans hy.symm) ?_
          rw [decide_eq_true_eq] at hne
          exact (Bool.eq_not_of_ne hne).trans (Bool.eq_not_of_ne hyfull).symm
        simp [Keyed.put, Setting.entry, hkey, hsame]

/-- The last entry for a field is that of the setting that prevails. -/
theorem getLast?_merge_entries {settings : List Setting} (h : ∀ x ∈ settings, x.field = f) :
    (Keyed.merge [] (settings.map Setting.entry)).getLast? = (prevailing settings).map Setting.entry := by
  cases settings with
  | nil => rfl
  | cons x rest =>
    have hx : x.field = f := h x (List.mem_cons_self ..)
    have hrest : ∀ y ∈ rest, y.field = x.field := fun y hy => (h y (List.mem_cons_of_mem _ hy)).trans hx.symm
    obtain ⟨first, -, -, hmerge, hfirst⟩ := merge_entries hrest
    rw [hmerge, prevailing]
    cases hother : (rest.filter (·.full ≠ x.full)).getLast? with
    | none =>
      rw [Option.none_or, hfirst hother]
      rfl
    | some second => rfl

end Dictionary

/-- What the options give for a field. -/
def chosen (settings : List Setting) (f : SourceField) : Option Json :=
  (prevailing (settingsOf settings f)).map fun x => .str x.value

theorem lastGiven_merge_entries (settings : List Setting) :
    SourceSettings.lastGiven ((Keyed.merge [] (settings.map Setting.entry)).map fun (k, v) => (k, .str v)) =
      chosen settings := by
  funext f
  have hfield : ∀ x ∈ settingsOf settings f, x.field = f := by simp [settingsOf]
  unfold SourceSettings.lastGiven chosen
  rw [List.filter_map, List.getLast?_map, Option.map_map]
  have hlast := getLast?_merge_entries hfield
  rw [← filter_entries settings f] at hlast
  change ((Keyed.merge [] (settings.map Setting.entry)).filter
    fun e => decide (SourceField.ofKey? e.1 = some f)).getLast?.map _ = _
  rw [hlast, Option.map_map]
  rfl

/-- Options give settings exactly where those have the values of the settings that prevail. -/
theorem sourceSettings_eq_ok_iff {items : List String} {settings : List Setting}
    (h : List.Forall₂ Setting.Spells items settings) (hne : settings ≠ []) {around : Surroundings}
    {s : SourceSettings} :
    sourceSettings items around = .ok s ↔ SourceSettings.Built (chosen settings) around s := by
  have hread := Setting.properties_of_spells [] h
  have hkeys {key : String} : key ∈ (Keyed.merge [] (settings.map Setting.entry)).keys ↔
      ∃ x ∈ settings, x.key = key := by
    rw [Keyed.mem_keys_merge]
    simp [Keyed.keys, Setting.entry]
  rw [← lastGiven_merge_entries settings]
  cases hmerge : Keyed.merge [] (settings.map Setting.entry) with
  | nil =>
    obtain ⟨x, rest, rfl⟩ := List.exists_cons_of_ne_nil hne
    have hmem := hkeys.mpr ⟨x, List.mem_cons_self .., rfl⟩
    rw [hmerge] at hmem
    cases hmem
  | cons e rest =>
    rw [hmerge] at hread hkeys
    have hknown : ∀ p ∈ (e :: rest).map fun (k, v) => (k, Json.str v), (SourceField.ofKey? p.1).isSome := by
      intro p hp
      obtain ⟨q, hq, rfl⟩ := List.mem_map.mp hp
      obtain ⟨x, -, hx⟩ := hkeys.mp (List.mem_map_of_mem hq)
      rw [← hx, x.ofKey?_key]
      rfl
    rw [← SourceSettings.ofProperties_eq_ok_iff hknown]
    unfold sourceSettings
    rw [hread, Work.bind_eq_ok]
    constructor
    · rintro ⟨_, hsame, hok⟩
      cases hsame
      dsimp only at hok
      split at hok
      next t ht =>
        cases hok
        exact ht
      next => cases hok
    · intro hok
      refine ⟨_, rfl, ?_⟩
      dsimp only
      rw [hok]
      rfl

/-- The field is named in its other spelling in between, and last as it was at first. -/
def Reverts (settings : List Setting) : Prop :=
  ∃ x ∈ settings.head?, ∃ y ∈ settings.getLast?, y.full = x.full ∧ ∃ z ∈ settings, z.full ≠ x.full

theorem prevailing_eq_last_iff {settings : List Setting} {x : Setting} (h : settings.getLast? = some x) :
    prevailing settings = some x ↔ ¬ Reverts settings := by
  cases settings with
  | nil => cases h
  | cons first rest =>
    have hreverts : Reverts (first :: rest) ↔ x.full = first.full ∧ ∃ z ∈ rest, z.full ≠ first.full := by
      simp [Reverts, h]
    rw [prevailing, hreverts]
    cases hother : (rest.filter (·.full ≠ first.full)).getLast? with
    | none =>
      rw [List.getLast?_eq_none_iff, List.filter_eq_nil_iff] at hother
      rw [Option.none_or, h]
      simp only [true_iff, not_and, not_exists]
      intro _ z hz
      exact fun hne => hother z hz (decide_eq_true hne)
    | some second =>
      obtain ⟨hmem, hne⟩ := List.mem_filter.mp (List.mem_of_getLast? hother)
      rw [decide_eq_true_eq] at hne
      rw [Option.some_or, Option.some.injEq, not_and]
      constructor
      · rintro rfl hfull
        exact absurd hfull hne
      · intro hlast
        have hx : x.full ≠ first.full := fun hfull => hlast hfull ⟨second, hmem, hne⟩
        have hrest : rest.getLast? = some x := by
          rw [List.getLast?_cons, Option.some.injEq] at h
          cases hr : rest.getLast? with
          | none =>
            rw [hr] at h
            exact absurd (congrArg Setting.full h).symm hx
          | some y =>
            rw [hr] at h
            exact congrArg some h
        obtain ⟨before, rfl⟩ := List.getLast?_eq_some_iff.mp hrest
        have hsame : some x = some second := by simpa [hx] using hother
        exact (Option.some.inj hsame).symm

/-- Options give the settings of a source exactly as the settings that prevail for each field, the variables and
the defaults say, and give some where all these can be read. For a field the last option prevails, unless the
field is named in its other spelling in between and last as it was at first. Options for different fields can
change places. -/
theorem last_option_prevails_iff {items : List String} {settings : List Setting}
    (h : List.Forall₂ Setting.Spells items settings) (hne : settings ≠ []) (around : Surroundings) :
    (∀ s, sourceSettings items around = .ok s ↔ SourceSettings.Built (chosen settings) around s) ∧
      ((∃ s, sourceSettings items around = .ok s) ↔
        ∀ f j, SourceSettings.drawn (chosen settings) around f = some j → ∃ v, f.kind.read j = .ok v) ∧
      (∀ f x, (settingsOf settings f).getLast? = some x →
        (prevailing (settingsOf settings f) = some x ↔ ¬ Reverts (settingsOf settings f)) ∧
        (¬ Reverts (settingsOf settings f) →
          ∀ s, sourceSettings items around = .ok s → f.kind.read (.str x.value) = .ok (s.value f))) ∧
      ∀ items' settings', List.Forall₂ Setting.Spells items' settings' →
        (∀ f, settingsOf settings' f = settingsOf settings f) →
          ∀ s, sourceSettings items' around = .ok s ↔ sourceSettings items around = .ok s := by
  have hbuilt (s : SourceSettings) : sourceSettings items around = .ok s ↔
      SourceSettings.Built (chosen settings) around s := sourceSettings_eq_ok_iff h hne
  refine ⟨hbuilt, ?_, ?_, ?_⟩
  · simp only [hbuilt]
    exact SourceSettings.exists_built_iff
  · intro f x hlast
    refine ⟨prevailing_eq_last_iff hlast, fun hkept s hs => ?_⟩
    have hchosen : chosen settings f = some (.str x.value) := by
      rw [chosen, (prevailing_eq_last_iff hlast).mpr hkept]
      rfl
    have hsettles := (hbuilt s).mp hs f
    rw [SourceSettings.drawn, hchosen] at hsettles
    exact hsettles
  · intro items' settings' h' hsame s
    have hne' : settings' ≠ [] := by
      rintro rfl
      obtain ⟨x, rest, rfl⟩ := List.exists_cons_of_ne_nil hne
      have hx := hsame x.field
      simp [settingsOf] at hx
    have hchosen : chosen settings' = chosen settings := by
      funext f
      rw [chosen, hsame f, chosen]
    rw [hbuilt s, sourceSettings_eq_ok_iff h' hne', hchosen]

/-- The fetch size as it is named at first, in the other spelling, and as at first again. -/
def revertedItems : List String := ["num.instants=1", " source.s3incr.num.instants =2", "num.instants=3"]

def revertedSettings : List Setting :=
  [⟨.fetchSize, false, "1"⟩, ⟨.fetchSize, true, "2"⟩, ⟨.fetchSize, false, "3"⟩]

theorem revertedItems_spell : List.Forall₂ Setting.Spells revertedItems revertedSettings :=
  .cons ⟨"num.instants", by decide +kernel⟩
    (.cons ⟨" source.s3incr.num.instants ", by decide +kernel⟩ (.cons ⟨"num.instants", by decide +kernel⟩ .nil))

theorem sourceSettings_revertedItems : sourceSettings revertedItems .unset = .ok { fetchSize := 2 } :=
  Work.eq_ok_of_toOption (by decide +kernel)

/-- The last option for the fetch size is for three, which is a fetch size, but the size becomes two. -/
theorem last_option_overruled :
    (settingsOf revertedSettings .fetchSize).getLast? = some ⟨.fetchSize, false, "3"⟩ ∧
      Lax.positive (.str "3") = .ok 3 ∧ sourceSettings revertedItems .unset = .ok { fetchSize := 2 } :=
  ⟨rfl, rfl, sourceSettings_revertedItems⟩

theorem last_option_prevails_iff_reverted :
    List.Forall₂ Setting.Spells revertedItems revertedSettings ∧ revertedSettings ≠ [] ∧
      SourceSettings.Built (chosen revertedSettings) .unset { fetchSize := 2 } :=
  ⟨revertedItems_spell, by decide,
    ((last_option_prevails_iff revertedItems_spell (by decide) .unset).1 _).mp sourceSettings_revertedItems⟩

end ObjectIntake.Command
