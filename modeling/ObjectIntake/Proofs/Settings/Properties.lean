import ObjectIntake.Proofs.Settings.Source

/-! The fields that dotted keys name, with the last of the values that are given for each. -/
namespace ObjectIntake.Settings.SourceSettings

/-- The last value that a property gives for the field. -/
def lastGiven (properties : Keyed Json) (f : SourceField) : Option Json :=
  (properties.filter fun p => SourceField.ofKey? p.1 = some f).getLast?.map (·.2)

theorem lookup_of_fieldsOf {properties : Keyed Json} {done given : List (SourceField × Json)} (f : SourceField)
    (h : fieldsOf done properties = .ok given) :
    given.lookup f = (lastGiven properties f).or (done.lookup f) := by
  induction properties generalizing done with
  | nil =>
    cases h
    rfl
  | cons p rest ih =>
    obtain ⟨key, j⟩ := p
    unfold fieldsOf at h
    cases hkey : SourceField.ofKey? key with
    | none =>
      rw [hkey] at h
      cases h
    | some g =>
      rw [hkey] at h
      rw [ih h]
      unfold lastGiven
      by_cases hg : g = f
      · subst hg
        rw [List.filter_cons_of_pos (by simp [hkey]), List.getLast?_cons]
        cases (rest.filter fun p => decide (SourceField.ofKey? p.1 = some g)).getLast? <;> simp
      · rw [List.filter_cons_of_neg (by simp [hkey, hg]), List.lookup_cons, beq_eq_false_iff_ne.mpr (Ne.symm hg)]

theorem exists_fieldsOf {properties : Keyed Json} (done : List (SourceField × Json))
    (h : ∀ p ∈ properties, (SourceField.ofKey? p.1).isSome) : ∃ given, fieldsOf done properties = .ok given := by
  induction properties generalizing done with
  | nil => exact ⟨done, rfl⟩
  | cons p rest ih =>
    obtain ⟨g, hg⟩ := Option.isSome_iff_exists.mp (h p (List.mem_cons_self ..))
    obtain ⟨given, hgiven⟩ := ih ((g, p.2) :: done) fun q hq => h q (List.mem_cons_of_mem _ hq)
    refine ⟨given, ?_⟩
    unfold fieldsOf
    rw [hg]
    exact hgiven

/-- Known properties give settings exactly where those have the values that are last given or else set. -/
theorem ofProperties_eq_ok_iff {properties : Keyed Json}
    (hknown : ∀ p ∈ properties, (SourceField.ofKey? p.1).isSome) {around : Surroundings} {s : SourceSettings} :
    ofProperties properties around = .ok s ↔ Built (lastGiven properties) around s := by
  obtain ⟨given, hgiven⟩ := exists_fieldsOf [] hknown
  have hlookup : (fun f => given.lookup f) = lastGiven properties := by
    funext f
    rw [lookup_of_fieldsOf f hgiven, List.lookup_nil, Option.or_none]
  rw [← build_eq_ok_iff, ← hlookup]
  unfold ofProperties
  rw [hgiven, Work.bind_eq_ok]
  constructor
  · rintro ⟨_, hsame, hbuild⟩
    cases hsame
    split at hbuild
    next t hok =>
      cases hbuild
      exact hok
    next => cases hbuild
  · intro hbuild
    refine ⟨given, rfl, ?_⟩
    rw [hbuild]
    rfl

end ObjectIntake.Settings.SourceSettings
