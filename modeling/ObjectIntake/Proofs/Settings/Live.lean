import ObjectIntake.Settings.Live

/-! What putting a fetch size changes: the size and the checks that concern it, and nothing else. -/
namespace ObjectIntake.Settings.LiveSettings

theorem lookup_filter_field (refused : List (Use × Failure)) (f : SourceField) (u : Use) :
    (refused.filter fun r => r.1.field ≠ f).lookup u = if u.field = f then none else refused.lookup u := by
  induction refused with
  | nil => rw [List.filter_nil, List.lookup_nil, ite_self]
  | cons r rest ih =>
    obtain ⟨use, failure⟩ := r
    by_cases hf : use.field = f
    · rw [List.filter_cons_of_neg (by simp only [hf, ne_eq, not_true_eq_false, decide_false,
        Bool.false_eq_true, not_false_eq_true]), ih]
      by_cases hu : u.field = f
      · rw [if_pos hu, if_pos hu]
      · have hne : (u == use) = false := by
          rw [beq_eq_false_iff_ne]
          rintro rfl
          exact hu hf
        rw [if_neg hu, if_neg hu, List.lookup_cons, hne]
    · rw [List.filter_cons_of_pos (by simp only [hf, ne_eq, not_false_eq_true, decide_true]),
        List.lookup_cons, List.lookup_cons, ih]
      by_cases hu : u.field = f
      · have hne : (u == use) = false := by
          rw [beq_eq_false_iff_ne]
          rintro rfl
          exact hf hu
        rw [if_pos hu, if_pos hu, hne]
      · rw [if_neg hu, if_neg hu]

/-- A whole number serves every use of the fetch size, and other uses do not notice it. -/
theorem check_put_fetchSize (s : LiveSettings) (n : Int) (u : Use) :
    (s.put .fetchSize (.int n)).check u = if u.field = .fetchSize then .ok () else s.check u := by
  have hlookup : (s.put .fetchSize (.int n)).refused.lookup u =
      if u.field = .fetchSize then none else s.refused.lookup u := lookup_filter_field ..
  rw [check, hlookup]
  by_cases hu : u.field = .fetchSize
  · rw [if_pos hu, if_pos hu]
  · rw [if_neg hu, if_neg hu]
    rfl

end ObjectIntake.Settings.LiveSettings
