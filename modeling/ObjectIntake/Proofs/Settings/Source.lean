import ObjectIntake.Proofs.Settings.Kind

/-!
What building the settings of a source takes from where: each field from the value that is given for it, else
from its variable, else from its default, whatever the other fields are.
-/
namespace ObjectIntake.Settings
open Text

namespace SourceField

def kind : SourceField → Kind
  | basePath => .optionalText
  | fetchSize => .positive
  | strategy => .optionalStrategy
  | latestOnMissing => .truth
  | fileFormat => .text
  | keyStart => .optionalText
  | ignoredKeyStart => .optionalText
  | ignoredKeyPart => .optionalText
  | fileExtensions => .optionalText
  | checkExistence => .truth
  | parallelism => .positive
  | attachPartition => .truth
  | partitionField => .optionalText
  | readerOptions => .optionalText
  | fileSystem => .text
  | commitColumn => .text

theorem nodup_all : all.Nodup := by decide

theorem filter_all (f : SourceField) : all.filter (· = f) = [f] := by
  cases f <;> decide

/-- A field is named by its short key and by its full key, and by nothing else. -/
theorem ofKey?_eq_some_iff {key : String} {f : SourceField} :
    ofKey? key = some f ↔ key = f.shortKey ∨ key = f.key := by
  constructor
  · intro h
    have hshort := List.find?_some h
    simp only [decide_eq_true_eq] at hshort
    split at hshort
    next hstem =>
      obtain ⟨rest, hrest⟩ := List.isPrefixOf_iff_prefix.mp hstem
      refine .inr (String.toList_injective ?_)
      rw [← hrest, List.drop_left' String.length_toList] at hshort
      rw [SourceField.key, hshort, String.toList_append, String.toList_ofList, hrest]
    next => exact .inl hshort.symm
  · have hself : ∀ f : SourceField, ofKey? f.shortKey = some f ∧ ofKey? f.key = some f := by
      intro f
      cases f <;> decide +kernel
    rintro (rfl | rfl)
    · exact (hself f).1
    · exact (hself f).2

end SourceField

namespace SourceSettings

theorem ofOption_injective : Function.Injective Json.ofOption := by
  intro a b h
  cases a <;> cases b <;> simp_all [Json.ofOption]

theorem name_injective : Function.Injective (fun s : Option Strategy => s.map (·.name)) := by
  intro a b h
  cases a with
  | none => cases b <;> simp_all
  | some a =>
    cases b with
    | none => simp at h
    | some b =>
      have hname : Strategy.ofName? a.name = Strategy.ofName? b.name := congrArg _ (Option.some.inj h)
      rw [Strategy.ofName?_name, Strategy.ofName?_name] at hname
      exact hname

/-- Settings are known by the values of their fields. -/
theorem ext_value {s t : SourceSettings} (h : ∀ f, s.value f = t.value f) : s = t := by
  have htext {a b : Option String} (h : Json.ofOption a = Json.ofOption b) : a = b := ofOption_injective h
  obtain ⟨⟩ := s
  obtain ⟨⟩ := t
  simp only [mk.injEq]
  refine ⟨htext (h .basePath), Json.int.inj (h .fetchSize), name_injective (htext (h .strategy)),
    Json.bool.inj (h .latestOnMissing), Json.str.inj (h .fileFormat), htext (h .keyStart),
    htext (h .ignoredKeyStart), htext (h .ignoredKeyPart), htext (h .fileExtensions),
    Json.bool.inj (h .checkExistence), Json.int.inj (h .parallelism), Json.bool.inj (h .attachPartition),
    htext (h .partitionField), htext (h .readerOptions), Json.str.inj (h .fileSystem),
    Json.str.inj (h .commitColumn)⟩

/-- A field is assigned as its kind reads the value, and the others keep theirs. -/
theorem assign_of_read {s : SourceSettings} {f : SourceField} {j v : Json} (h : f.kind.read j = .ok v) :
    ∃ t, s.assign f j = .ok t ∧ t.value f = v ∧ ∀ g, g ≠ f → t.value g = s.value g := by
  cases f
  all_goals
    obtain ⟨a, ha, rfl⟩ := Kind.map_eq_ok h
    simp only [assign, ha]
    refine ⟨_, rfl, rfl, ?_⟩
    intro g hg
    cases g <;> first | rfl | contradiction

theorem assign_of_unread {s : SourceSettings} {f : SourceField} {j : Json} {v : Violation}
    (h : f.kind.read j = .error v) : s.assign f j = .error v := by
  cases f
  all_goals
    have hread := Kind.map_eq_error h
    simp only [assign, hread]
    rfl

/-- What the value of a field becomes: what is read for it if something is given, else what it was. -/
def Settles (raw : Option Json) (f : SourceField) (before after : Json) : Prop :=
  match raw with
  | some j => f.kind.read j = .ok after
  | none => after = before

theorem Settles.unique {raw : Option Json} {f : SourceField} {before after other : Json}
    (h : Settles raw f before after) (hother : Settles raw f before other) : after = other := by
  cases raw with
  | none => exact Eq.trans h (Eq.symm hother)
  | some j => exact Except.ok.inj (Eq.trans (Eq.symm h) hother)

/-- The fields are settled one after the other: the first one, and then the others with that one as it is. -/
theorem settles_cons_iff {raw : SourceField → Option Json} {f : SourceField} {rest : List SourceField}
    {s u t : SourceSettings} (hf : f ∉ rest) (hfirst : Settles (raw f) f (s.value f) (u.value f))
    (hothers : ∀ g, g ≠ f → u.value g = s.value g) :
    (∀ g, if g ∈ rest then Settles (raw g) g (u.value g) (t.value g) else t.value g = u.value g) ↔
      ∀ g, if g ∈ f :: rest then Settles (raw g) g (s.value g) (t.value g) else t.value g = s.value g := by
  refine forall_congr' fun g => ?_
  by_cases hgf : g = f
  · subst hgf
    rw [if_neg hf, if_pos (List.mem_cons_self ..)]
    constructor
    · intro h
      rw [h]
      exact hfirst
    · intro h
      exact h.unique hfirst
  · simp only [List.mem_cons, hgf, false_or, hothers g hgf]

/-- Nothing is wrong exactly where each field that is given can be read, and those are the fields that change. -/
theorem fill_eq_nil_iff {raw : SourceField → Option Json} {fields : List SourceField} (hnodup : fields.Nodup)
    {s t : SourceSettings} :
    fill raw fields s = (t, []) ↔
      ∀ f, if f ∈ fields then Settles (raw f) f (s.value f) (t.value f) else t.value f = s.value f := by
  induction fields generalizing s with
  | nil =>
    simp only [fill, Prod.mk.injEq, and_true, List.not_mem_nil, if_false]
    constructor
    · rintro rfl f
      rfl
    · intro h
      exact ext_value fun f => (h f).symm
  | cons f rest ih =>
    obtain ⟨hf, hrest⟩ := List.nodup_cons.mp hnodup
    unfold fill
    cases hraw : raw f with
    | none =>
      have hfirst : Settles (raw f) f (s.value f) (s.value f) := by
        rw [hraw]
        rfl
      exact (ih hrest).trans (settles_cons_iff hf hfirst fun g _ => rfl)
    | some j =>
      cases hread : f.kind.read j with
      | error v =>
        simp only [assign_of_unread hread]
        constructor
        · intro h
          cases congrArg Prod.snd h
        · intro h
          have hf := h f
          simp [Settles, hraw, hread] at hf
      | ok v =>
        obtain ⟨u, hassign, hvalue, hothers⟩ := assign_of_read (s := s) hread
        have hfirst : Settles (raw f) f (s.value f) (u.value f) := by
          rw [hraw, hvalue]
          exact hread
        simp only [hassign]
        exact (ih hrest).trans (settles_cons_iff hf hfirst hothers)

/-- Filling can be completed where each field that is given can be read. -/
theorem exists_fill_iff {raw : SourceField → Option Json} {fields : List SourceField} {s : SourceSettings} :
    (∃ t, fill raw fields s = (t, [])) ↔
      ∀ f ∈ fields, ∀ j, raw f = some j → ∃ v, f.kind.read j = .ok v := by
  induction fields generalizing s with
  | nil => simp [fill]
  | cons f rest ih =>
    unfold fill
    cases hraw : raw f with
    | none => simp [ih, hraw]
    | some j =>
      cases hread : f.kind.read j with
      | error v => simp [assign_of_unread hread, hraw, hread]
      | ok v =>
        obtain ⟨u, hassign, -, -⟩ := assign_of_read (s := s) hread
        simp [hassign, ih, hraw, hread]

/-- What is given for a field, or else what its variable is set to. -/
def drawn (given : SourceField → Option Json) (around : Surroundings) (f : SourceField) : Option Json :=
  match given f with
  | some j => some j
  | none => (around.value? f.variableName).map Json.str

/-- Each field has the value that is read for it, or its default. -/
def Built (given : SourceField → Option Json) (around : Surroundings) (s : SourceSettings) : Prop :=
  ∀ f, Settles (drawn given around f) f (({} : SourceSettings).value f) (s.value f)

section Build

variable {given : SourceField → Option Json} {around : Surroundings} {s : SourceSettings}

theorem build_eq_ok_iff_fill :
    build given around = .ok s ↔ fill (drawn given around) SourceField.all {} = (s, []) := by
  have hdrawn : drawn given around = fun f =>
      match given f with
      | some j => some j
      | none => (around.value? f.variableName).map Json.str := rfl
  rw [hdrawn]
  dsimp only [build]
  generalize fill _ SourceField.all {} = filled
  obtain ⟨t, issues⟩ := filled
  cases issues with
  | nil => simp
  | cons issue issues => simp

/-- Of its surroundings only the variables of the fields matter to what is built. -/
theorem build_congr {a b : Surroundings} (h : ∀ f : SourceField, a.value? f.variableName = b.value? f.variableName) :
    build given a = build given b := by
  unfold build
  dsimp only
  congr 1
  congr 1
  funext f
  rw [h]

/-- Settings are built exactly as what is given, set and left out says, field by field. -/
theorem build_eq_ok_iff : build given around = .ok s ↔ Built given around s := by
  rw [build_eq_ok_iff_fill, fill_eq_nil_iff SourceField.nodup_all]
  unfold Built
  simp only [SourceField.mem_all, if_true]

/-- Settings are built where each value that is given or set can be read. -/
theorem exists_built_iff :
    (∃ s, Built given around s) ↔ ∀ f j, drawn given around f = some j → ∃ v, f.kind.read j = .ok v := by
  simp only [← build_eq_ok_iff, build_eq_ok_iff_fill, exists_fill_iff, SourceField.mem_all, true_imp_iff]

end Build

end SourceSettings

/-- Nothing is set. -/
def Surroundings.unset : Surroundings where
  environment := []
  file := none

end ObjectIntake.Settings
