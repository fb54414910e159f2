import Mathlib.Data.List.TakeWhile
import ObjectIntake.Text.Search

/-!
Searching a text and cutting it at a separator. What is searched for without the separator in it occurs first within
the first piece that holds it.
-/
namespace ObjectIntake.Text

/-- The first occurrence of `needle` in `s` is the one after `before`. -/
structure FirstAfter (needle s before rest : List Char) : Prop where
  eq : s = before ++ (needle ++ rest)
  least : ∀ earlier later, s = earlier ++ (needle ++ later) → before.length ≤ earlier.length

section Search

variable {needle s rest : List Char}

theorem after?_eq_none_iff : after? needle s = none ↔ ¬ needle <:+: s := by
  induction s with
  | nil => simp [after?]
  | cons c s ih =>
    rw [after?, List.infix_cons_iff, ← List.isPrefixOf_iff_prefix]
    split
    next hstarts => simp [hstarts]
    next hstarts => simp [hstarts, ih]

theorem firstAfter_of_after? (h : after? needle s = some rest) : ∃ before, FirstAfter needle s before rest := by
  induction s with
  | nil =>
    simp only [after?, Option.ite_none_right_eq_some, List.isEmpty_iff, Option.some.injEq] at h
    obtain ⟨rfl, rfl⟩ := h
    exact ⟨[], rfl, fun _ _ _ => Nat.zero_le _⟩
  | cons c s ih =>
    rw [after?] at h
    split at h
    next hstarts =>
      have heq := List.prefix_iff_eq_append.mp (List.isPrefixOf_iff_prefix.mp hstarts)
      rw [Option.some.inj h] at heq
      exact ⟨[], heq.symm, fun _ _ _ => Nat.zero_le _⟩
    next hstarts =>
      obtain ⟨before, heq, hleast⟩ := ih h
      refine ⟨c :: before, congrArg (c :: ·) heq, fun earlier later hearlier => ?_⟩
      cases earlier with
      | nil => exact absurd (List.isPrefixOf_iff_prefix.mpr ⟨later, hearlier.symm⟩) hstarts
      | cons d earlier => exact Nat.succ_le_succ (hleast earlier later (List.cons.inj hearlier).2)

end Search

section Pieces

variable {sep : Char} {needle p s : List Char}

theorem pieces_eq_singleton (h : sep ∉ s) : pieces sep s = [s] := by
  induction s with
  | nil => rfl
  | cons c s ih =>
    have hc : c ≠ sep := (List.ne_of_not_mem_cons h).symm
    rw [pieces, if_neg hc, ih (List.not_mem_of_not_mem_cons h)]

theorem pieces_append_cons (h : sep ∉ p) (s : List Char) : pieces sep (p ++ sep :: s) = p :: pieces sep s := by
  induction p with
  | nil => rw [List.nil_append, pieces, if_pos rfl]
  | cons c p ih =>
    have hc : c ≠ sep := (List.ne_of_not_mem_cons h).symm
    rw [List.cons_append, pieces, if_neg hc, ih (List.not_mem_of_not_mem_cons h)]

/-- What holds of texts without the separator, and of a text once it holds of what follows its first piece. -/
theorem induction_on_pieces (sep : Char) {motive : List Char → Prop} (single : ∀ p, sep ∉ p → motive p)
    (cons : ∀ p s, sep ∉ p → motive s → motive (p ++ sep :: s)) (s : List Char) : motive s := by
  induction hlength : s.length using Nat.strongRecOn generalizing s with
  | ind n ih =>
    by_cases hsep : sep ∈ s
    · obtain ⟨p, rest, rfl, hp⟩ := List.eq_append_cons_of_mem hsep
      have hshorter : rest.length < n := by
        rw [← hlength, List.length_append, List.length_cons]
        omega
      exact cons p rest hp (ih rest.length hshorter rest rfl)
    · exact single s hsep

theorem notMem_of_mem_pieces (h : p ∈ pieces sep s) : sep ∉ p := by
  induction s using induction_on_pieces sep with
  | single q hq =>
    rw [pieces_eq_singleton hq] at h
    exact List.mem_singleton.mp h ▸ hq
  | cons q s hq ih =>
    rw [pieces_append_cons hq] at h
    rcases List.mem_cons.mp h with rfl | h
    · exact hq
    · exact ih h

/-- With a separator at each end of the text, the part has one at each of its ends, and none in it. -/
structure Between (sep : Char) (s p : List Char) : Prop where
  plain : sep ∉ p
  enclosed : sep :: (p ++ [sep]) <:+: sep :: (s ++ [sep])

theorem enclosed_prefix_iff {q : List Char} (hp : sep ∉ p) (hq : sep ∉ q) (s : List Char) :
    p ++ [sep] <+: q ++ sep :: s ↔ p = q := by
  induction p generalizing q with
  | nil =>
    cases q with
    | nil => simp
    | cons c q => simp [List.cons_prefix_cons, List.ne_of_not_mem_cons hq]
  | cons d p ih =>
    cases q with
    | nil => simp [List.cons_prefix_cons, (List.ne_of_not_mem_cons hp).symm]
    | cons c q =>
      rw [List.cons_append, List.cons_append, List.cons_prefix_cons, List.cons.injEq,
        ih (List.not_mem_of_not_mem_cons hp) (List.not_mem_of_not_mem_cons hq)]

theorem infix_append_cons_iff {q : List Char} (hq : sep ∉ q) (p s : List Char) :
    sep :: p <:+: q ++ sep :: s ↔ sep :: p <:+: sep :: s := by
  induction q with
  | nil => rfl
  | cons c q ih =>
    have hc : sep ≠ c := List.ne_of_not_mem_cons hq
    rw [List.cons_append, List.infix_cons_iff, List.cons_prefix_cons, ih (List.not_mem_of_not_mem_cons hq)]
    simp [hc]

/-- What stands between two separators stands before the first separator of the text or after it. -/
theorem enclosed_append_cons_iff {q : List Char} (hp : sep ∉ p) (hq : sep ∉ q) (s : List Char) :
    sep :: (p ++ [sep]) <:+: sep :: (q ++ sep :: s) ↔ p = q ∨ sep :: (p ++ [sep]) <:+: sep :: s := by
  rw [List.infix_cons_iff, List.cons_prefix_cons, enclosed_prefix_iff hp hq, infix_append_cons_iff hq]
  simp

theorem mem_pieces_iff : p ∈ pieces sep s ↔ Between sep s p := by
  suffices henclosed : sep ∉ p → (p ∈ pieces sep s ↔ sep :: (p ++ [sep]) <:+: sep :: (s ++ [sep])) from
    ⟨fun h => ⟨notMem_of_mem_pieces h, (henclosed (notMem_of_mem_pieces h)).mp h⟩,
      fun h => (henclosed h.plain).mpr h.enclosed⟩
  intro hp
  induction s using induction_on_pieces sep with
  | single q hq =>
    have hshort : ¬ sep :: (p ++ [sep]) <:+: [sep] := fun h => by simpa using h.length_le
    rw [pieces_eq_singleton hq, List.mem_singleton, enclosed_append_cons_iff hp hq, or_iff_left hshort]
  | cons q s hq ih =>
    rw [pieces_append_cons hq, List.mem_cons, ih, List.append_assoc, List.cons_append,
      enclosed_append_cons_iff hp hq]

/-- What holds of all characters of all pieces holds of all characters but the separator. -/
theorem forall_mem_pieces_iff {q : Char → Prop} :
    (∀ p ∈ pieces sep s, ∀ c ∈ p, q c) ↔ ∀ c ∈ s, c = sep ∨ q c := by
  have hplain {p : List Char} (hp : sep ∉ p) : (∀ c ∈ p, q c) ↔ ∀ c ∈ p, c = sep ∨ q c :=
    forall₂_congr fun c hc => (or_iff_right (ne_of_mem_of_not_mem hc hp)).symm
  induction s using induction_on_pieces sep with
  | single p hp => rw [pieces_eq_singleton hp, List.forall_mem_singleton, hplain hp]
  | cons p s hp ih =>
    rw [pieces_append_cons hp, List.forall_mem_cons, List.forall_mem_append, List.forall_mem_cons, hplain hp]
    exact and_congr_right fun _ => ih.trans (and_iff_right (.inl rfl)).symm

theorem prefix_append_cons_iff (h : sep ∉ needle) (s : List Char) : needle <+: p ++ sep :: s ↔ needle <+: p := by
  induction p generalizing needle with
  | nil =>
    cases needle with
    | nil => simp
    | cons d needle => simp [List.cons_prefix_cons, (List.ne_of_not_mem_cons h).symm]
  | cons c p ih =>
    cases needle with
    | nil => simp
    | cons d needle =>
      rw [List.cons_append, List.cons_prefix_cons, List.cons_prefix_cons, ih (List.not_mem_of_not_mem_cons h)]

/-- No occurrence reaches over the separator. -/
theorem after?_append_cons (h : sep ∉ needle) (p s : List Char) :
    after? needle (p ++ sep :: s) = ((after? needle p).map (· ++ sep :: s)).or (after? needle s) := by
  induction p with
  | nil =>
    cases needle with
    | nil => rfl
    | cons d needle => simp [after?, (List.ne_of_not_mem_cons h).symm]
  | cons c p ih =>
    have hstarts := prefix_append_cons_iff (p := c :: p) h s
    rw [List.cons_append] at hstarts ⊢
    rw [after?, after?, ih]
    simp only [List.isPrefixOf_iff_prefix, hstarts]
    split
    next hp => rw [← List.cons_append, List.drop_append_of_le_length hp.length_le, Option.map_some, Option.some_or]
    next => rfl

/-- What is left of a text without the separator has none in it either. -/
theorem notMem_of_after? {rest : List Char} (hp : sep ∉ p) (h : after? needle p = some rest) : sep ∉ rest := by
  obtain ⟨before, hfirst⟩ := firstAfter_of_after? h
  rw [hfirst.eq] at hp
  exact fun hrest => hp (List.mem_append_right _ (List.mem_append_right _ hrest))

theorem takeWhile_eq_self (h : sep ∉ s) : s.takeWhile (· ≠ sep) = s :=
  List.takeWhile_eq_self_iff.mpr fun _ hc => decide_eq_true (ne_of_mem_of_not_mem hc h)

theorem takeWhile_append_cons (h : sep ∉ p) (s : List Char) : (p ++ sep :: s).takeWhile (· ≠ sep) = p := by
  have hplain : ∀ c ∈ p, decide (c ≠ sep) = true := fun c hc => decide_eq_true (ne_of_mem_of_not_mem hc h)
  rw [List.takeWhile_append_of_pos hplain, List.takeWhile_cons_of_neg (by simp), List.append_nil]

/-- What follows the first occurrence, up to the separator, is what follows the first occurrence within a piece. -/
theorem takeWhile_after? (h : sep ∉ needle) (s : List Char) :
    (after? needle s).map (List.takeWhile (· ≠ sep)) = (pieces sep s).findSome? (after? needle) := by
  induction s using induction_on_pieces sep with
  | single p hp =>
    rw [pieces_eq_singleton hp, List.findSome?_singleton]
    cases hrest : after? needle p with
    | none => rfl
    | some rest =>
      rw [Option.map_some, takeWhile_eq_self (notMem_of_after? hp hrest)]
  | cons p s hp ih =>
    rw [pieces_append_cons hp, List.findSome?_cons, after?_append_cons h, ← ih]
    cases hrest : after? needle p with
    | none => rfl
    | some rest =>
      have hrest' := takeWhile_append_cons (notMem_of_after? hp hrest) s
      rw [Option.map_some, Option.some_or, Option.map_some, hrest']

end Pieces

end ObjectIntake.Text
