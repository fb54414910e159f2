import ObjectIntake.Text.Newline

/-! How line ends are unified, character by character and back. -/
namespace ObjectIntake.Text

variable {c : Char} {s t : List Char}

theorem unifyNewlines_cons (hc : c ≠ '\r') (s : List Char) : unifyNewlines (c :: s) = c :: unifyNewlines s := by
  rw [unifyNewlines.eq_def]
  split
  next heq => cases heq
  next heq => exact absurd (List.cons.inj heq).1 hc
  next heq => exact absurd (List.cons.inj heq).1 hc
  next heq => cases heq; rfl

theorem unifyNewlines_return_lineFeed (s : List Char) : unifyNewlines ('\r' :: '\n' :: s) = unifyNewlines ('\n' :: s) :=
  (unifyNewlines_cons (by decide) s).symm

theorem unifyNewlines_return (hs : ∀ c ∈ s.head?, c ≠ '\n') : unifyNewlines ('\r' :: s) = '\n' :: unifyNewlines s := by
  cases s with
  | nil => rfl
  | cons c s =>
    rw [unifyNewlines.eq_def]
    split
    next heq => cases heq
    next heq => exact absurd (List.cons.inj (List.cons.inj heq).2).1 (hs c rfl)
    next heq => cases heq; rfl
    next hne heq => exact absurd (List.cons.inj heq).1.symm hne

theorem unifyNewlines_eq_self (h : '\r' ∉ s) : unifyNewlines s = s := by
  induction s with
  | nil => rfl
  | cons c s ih =>
    rw [List.mem_cons, not_or] at h
    rw [unifyNewlines_cons (Ne.symm h.1), ih h.2]

theorem unifyNewlines_eq_nil (h : unifyNewlines s = []) : s = [] := by
  rw [unifyNewlines.eq_def] at h
  split at h <;> cases h
  rfl

/-- What a text starts with is the same, or a line feed that stands for a carriage return. -/
theorem unifyNewlines_eq_cons (h : unifyNewlines s = c :: t) :
    (∃ s', s = c :: s' ∧ c ≠ '\r' ∧ unifyNewlines s' = t) ∨
      c = '\n' ∧ ∃ s', (s = '\r' :: s' ∨ s = '\r' :: '\n' :: s') ∧ unifyNewlines s' = t := by
  rw [unifyNewlines.eq_def] at h
  split at h
  next => cases h
  next s' =>
    cases h
    exact .inr ⟨rfl, s', .inr rfl, rfl⟩
  next s' _ =>
    cases h
    exact .inr ⟨rfl, s', .inl rfl, rfl⟩
  next d s' _ hne =>
    cases h
    refine .inl ⟨s', rfl, ?_, rfl⟩
    rintro rfl
    exact hne rfl

end ObjectIntake.Text
