import ObjectIntake.Command.Options
import ObjectIntake.Proofs.Settings.Source
import ObjectIntake.Proofs.Work

/-!
Which variables the settings of the application depend on: those that are documented, and three that are not. Each
group of settings is also read from a variable that has the name of the group, so a variable which happens to be called
so changes the settings, or keeps them from being read.
-/
namespace ObjectIntake
namespace Settings

/-- The variable has one value in both surroundings, as the environment gives it and as the file does. -/
structure Surroundings.AgreeAt (a b : Surroundings) (name : String) : Prop where
  environment : a.inEnvironment name = b.inEnvironment name
  file : a.inFile name = b.inFile name

theorem Surroundings.AgreeAt.value?_eq {a b : Surroundings} {name : String} (h : a.AgreeAt b name) :
    a.value? name = b.value? name := by
  unfold value?
  rw [h.environment, h.file]

/-- A variable of another name, before all others, makes no difference. -/
theorem Surroundings.pick_cons_of_ne {key name : String} (h : Text.lowercase key ≠ name) (value : Option String)
    (rest : List (String × Option String)) : pick ((key, value) :: rest) name = pick rest name := by
  unfold pick
  rw [List.reverse_cons, List.find?_append, List.find?_singleton, if_neg (by simpa using h), Option.or_none]

/-- The names of the variables that are documented, in lower case. -/
def Documented (name : String) : Prop :=
  "s3incr_".toList <+: name.toList ∨ name ∈ ["metrics_port", "log_level", "checkpoint_file"]

instance (name : String) : Decidable (Documented name) := inferInstanceAs (Decidable (_ ∨ _))

theorem documented_variableName (f : SourceField) : Documented f.variableName := by
  refine .inl ⟨f.name.toList, ?_⟩
  rw [SourceField.variableName, String.toList_append]

theorem Documented.ne_of_not {name other : String} (h : Documented name) (hother : ¬ Documented other) :
    other ≠ name := fun heq => hother (heq ▸ h)

namespace Application

section Agree

variable {a b : Surroundings}

theorem given_congr (hdepth : a.depth = b.depth) (h : ∀ g : Group, a.AgreeAt b g.name) : given a = given b := by
  have hread {read other : String → Option String} (hsame : ∀ g : Group, read g.name = other g.name) :
      readGroups b.depth read = readGroups b.depth other := by
    unfold readGroups
    rw [hsame, hsame, hsame]
  unfold given
  rw [hdepth, hread fun g => (h g).environment, hread fun g => (h g).file]

variable (h : ∀ name, Documented name → a.AgreeAt b name)
include h

theorem ofFields_congr (fields : Keyed Json) : SourceSettings.ofFields fields a = SourceSettings.ofFields fields b :=
  SourceSettings.build_congr fun f => (h _ (documented_variableName f)).value?_eq

theorem metricsGroup_congr (members : Keyed Json) : metricsGroup members a = metricsGroup members b := by
  unfold metricsGroup
  rw [(h "metrics_port" (.inr (by decide))).environment]

theorem applicationGroup_congr (members : Keyed Json) : applicationGroup members a = applicationGroup members b := by
  unfold applicationGroup textSetting
  rw [(h "log_level" (.inr (by decide))).value?_eq, (h "checkpoint_file" (.inr (by decide))).value?_eq]

/-- The settings follow from the documented variables and from those that are named as the groups. -/
theorem load_congr (hdepth : a.depth = b.depth) (hgroups : ∀ g : Group, a.AgreeAt b g.name) : load a = load b := by
  unfold load sourceOf metricsOf
  simp only [given_congr hdepth hgroups, ofFields_congr h, metricsGroup_congr h, applicationGroup_congr h]

end Agree

/-- The failure of a group that is not given as JSON, or is nested too deep to be read. -/
def GroupFault (e : Failure) : Prop := e = .unreadableSettings ∨ e = .nestedTooDeep

section Groups

variable {depth : Nat}

theorem groupFault_of_readGroup {g : Group} {text : Option String} {e : Failure}
    (h : readGroup depth g text = .error e) : GroupFault e := by
  unfold readGroup at h
  split at h
  next => cases h
  next =>
    split at h
    next => cases h
    next =>
      cases h
      exact .inr rfl
    next =>
      cases h
      exact .inl rfl

theorem groupFault_of_readGroups {read : String → Option String} {e : Failure}
    (h : readGroups depth read = .error e) : GroupFault e := by
  unfold readGroups at h
  rcases Work.bind_eq_error.mp h with h | ⟨_, -, h⟩
  · exact groupFault_of_readGroup h
  rcases Work.bind_eq_error.mp h with h | ⟨_, -, h⟩
  · exact groupFault_of_readGroup h
  rcases Work.bind_eq_error.mp h with h | ⟨_, -, h⟩
  · exact groupFault_of_readGroup h
  · cases h

theorem readGroup_of_readGroups {read : String → Option String} {groups : Group → Json}
    (h : readGroups depth read = .ok groups) (g : Group) : ∃ j, readGroup depth g (read g.name) = .ok j := by
  unfold readGroups at h
  obtain ⟨source, hsource, h⟩ := Work.bind_eq_ok.mp h
  obtain ⟨metrics, hmetrics, h⟩ := Work.bind_eq_ok.mp h
  obtain ⟨application, happlication, -⟩ := Work.bind_eq_ok.mp h
  cases g with
  | source => exact ⟨source, hsource⟩
  | metrics => exact ⟨metrics, hmetrics⟩
  | application => exact ⟨application, happlication⟩

/-- A text that is not JSON is read as no group. -/
theorem readGroup_of_unreadable {text : String} (h : ∀ j, Json.read depth text ≠ .ok j) (g : Group) (j : Json) :
    readGroup depth g (some text) ≠ .ok j := by
  unfold readGroup
  dsimp only
  split
  next j' hread => exact absurd hread (h j')
  next => exact fun h => nomatch h
  next => exact fun h => nomatch h

end Groups

theorem load_of_unreadable {around : Surroundings} {g : Group} {text : String}
    (h : ∀ j, Json.read around.depth text ≠ .ok j)
    (htext : around.inEnvironment g.name = some text ∨ around.inFile g.name = some text) :
    ∃ e, GroupFault e ∧ load around = .error e := by
  have hgiven : ∃ e, GroupFault e ∧ given around = .error e := by
    unfold given
    cases henvironment : readGroups around.depth around.inEnvironment with
    | error e => exact ⟨e, groupFault_of_readGroups henvironment, rfl⟩
    | ok environment =>
      cases hfile : readGroups around.depth around.inFile with
      | error e => exact ⟨e, groupFault_of_readGroups hfile, rfl⟩
      | ok file =>
        rcases htext with htext | htext
        · obtain ⟨j, hj⟩ := readGroup_of_readGroups henvironment g
          exact absurd (htext ▸ hj) (readGroup_of_unreadable h g j)
        · obtain ⟨j, hj⟩ := readGroup_of_readGroups hfile g
          exact absurd (htext ▸ hj) (readGroup_of_unreadable h g j)
  obtain ⟨e, hfault, hgiven⟩ := hgiven
  refine ⟨e, hfault, ?_⟩
  unfold load
  rw [hgiven]
  rfl

end Application
end Settings

namespace Command
open Settings

/-- Without options the settings of the source are those of the application. -/
theorem sourceSettings_nil (around : Surroundings) :
    sourceSettings [] around = (Application.load around).map (·.source) := by
  cases h : Application.load around with
  | error e => simp [sourceSettings, properties, h, bind, Except.bind, Except.map]
  | ok application => simp [sourceSettings, properties, h, bind, Except.bind, Except.map, pure, Except.pure]

/-- Without options, surroundings that agree on the documented variables give the same settings, or fail in the same
way, if they agree on the three variables that are named as the groups of settings too and on how deep these may nest.
One of the three that is not JSON keeps the settings from being read, whatever the documented variables say. -/
theorem settings_follow_variables {a b : Surroundings} (h : ∀ name, Documented name → a.AgreeAt b name) :
    (a.depth = b.depth → (∀ g : Application.Group, a.AgreeAt b g.name) → sourceSettings [] a = sourceSettings [] b) ∧
      ∀ (g : Application.Group) (text : String),
        b.inEnvironment g.name = some text ∨ b.inFile g.name = some text → (∀ j, Json.read b.depth text ≠ .ok j) →
          ∃ e, Application.GroupFault e ∧ sourceSettings [] b = .error e := by
  constructor
  · intro hdepth hgroups
    rw [sourceSettings_nil, sourceSettings_nil, Application.load_congr h hdepth hgroups]
  · intro g text htext hunreadable
    obtain ⟨e, hfault, hload⟩ := Application.load_of_unreadable hunreadable htext
    rw [sourceSettings_nil, hload]
    exact ⟨e, hfault, rfl⟩

/-- One documented variable. -/
def lakeAlone : Surroundings where
  environment := [("S3INCR_BASE_PATH", "lake")]
  file := none

/-- The same, among variables of other programs. -/
def lakeAmongOthers : Surroundings where
  environment := [("HOME", "/root"), ("S3INCR_BASE_PATH", "lake")]
  file := some "LANG=C"

theorem agreeAt_lakeAmongOthers {name : String} (hhome : Text.lowercase "HOME" ≠ name)
    (hlang : Text.lowercase "LANG" ≠ name) : lakeAlone.AgreeAt lakeAmongOthers name where
  environment := by
    unfold Surroundings.inEnvironment lakeAlone lakeAmongOthers
    rw [List.map_cons, List.map_cons, List.map_cons, Surroundings.pick_cons_of_ne hhome]
  file := by
    have hassigned : DotEnv.assigned lakeAmongOthers.environment "LANG=C" = [("LANG", some "C")] := by decide +kernel
    unfold lakeAmongOthers at hassigned ⊢
    unfold Surroundings.inFile lakeAlone
    dsimp only at hassigned ⊢
    rw [hassigned, Surroundings.pick_cons_of_ne hlang, Surroundings.pick, List.reverse_nil, List.find?_nil]
    rfl

theorem settings_follow_variables_lakeAmongOthers :
    (∀ name, Documented name → lakeAlone.AgreeAt lakeAmongOthers name) ∧
      sourceSettings [] lakeAmongOthers = .ok { basePath := some "lake" } := by
  have hdocumented (name : String) (h : Documented name) : lakeAlone.AgreeAt lakeAmongOthers name :=
    agreeAt_lakeAmongOthers (h.ne_of_not (by decide +kernel)) (h.ne_of_not (by decide +kernel))
  have hgroups (g : Application.Group) : lakeAlone.AgreeAt lakeAmongOthers g.name := by
    cases g <;> exact agreeAt_lakeAmongOthers (by decide +kernel) (by decide +kernel)
  refine ⟨hdocumented, ?_⟩
  rw [← (settings_follow_variables hdocumented).1 rfl hgroups]
  exact Work.eq_ok_of_toOption (by decide +kernel)

/-- The settings where no variable is set, where one that is named as a group is not JSON, and where one tells how the
source reaches its files. None of the documented variables is set. -/
theorem group_variables_change_settings :
    let bare : Surroundings := .unset
    let garbled : Surroundings := { environment := [("APP", "x")], file := none }
    let told : Surroundings := { environment := [("SOURCE", "\x7b\"fs_prefix\": \"gs\"\x7d")], file := none }
    (∀ name, Documented name → bare.AgreeAt garbled name ∧ bare.AgreeAt told name) ∧
      sourceSettings [] bare = .ok {} ∧ sourceSettings [] garbled = .error .unreadableSettings ∧
      sourceSettings [] told = .ok { fileSystem := "gs" } := by
  intro bare garbled told
  refine ⟨fun name h => ⟨⟨?_, rfl⟩, ⟨?_, rfl⟩⟩, ?_, ?_, ?_⟩
  · exact (Surroundings.pick_cons_of_ne (h.ne_of_not (by decide +kernel)) _ []).symm
  · exact (Surroundings.pick_cons_of_ne (h.ne_of_not (by decide +kernel)) _ []).symm
  · exact Work.eq_ok_of_toOption (by decide +kernel)
  · rfl
  · exact Work.eq_ok_of_toOption (by decide +kernel)

end Command
end ObjectIntake
