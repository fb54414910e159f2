import ObjectIntake.Event.Row

/-!
The order of references: the ascending list of some references holds each of them once, and it is told by
which references there are, not by the order or the number of times in which they come.
-/
namespace ObjectIntake.Event.Reference

/-- Strictly before, by bucket and then by key. -/
def Precedes (a b : Reference) : Prop := a.bucket < b.bucket ∨ (a.bucket = b.bucket ∧ a.key < b.key)

theorem precedes_iff {a b : Reference} : a.precedes b = true ↔ a.Precedes b := by
  simp only [precedes, Precedes, Bool.or_eq_true, Bool.and_eq_true, decide_eq_true_eq]

theorem Precedes.irrefl (a : Reference) : ¬ a.Precedes a := by
  rintro (h | ⟨-, h⟩)
  · exact String.lt_irrefl _ h
  · exact String.lt_irrefl _ h

theorem Precedes.trans {a b c : Reference} (hab : a.Precedes b) (hbc : b.Precedes c) :
    a.Precedes c := by
  rcases hab with hab | ⟨hab, hkab⟩ <;> rcases hbc with hbc | ⟨hbc, hkbc⟩
  · exact Or.inl (String.lt_trans hab hbc)
  · exact Or.inl (hbc ▸ hab)
  · exact Or.inl (hab ▸ hbc)
  · exact Or.inr ⟨hab.trans hbc, String.lt_trans hkab hkbc⟩

theorem Precedes.of_not {a b : Reference} (hne : a ≠ b) (h : ¬ a.Precedes b) : b.Precedes a := by
  rcases Std.lt_trichotomy a.bucket b.bucket with hlt | heq | hgt
  · exact absurd (Or.inl hlt) h
  · rcases Std.lt_trichotomy a.key b.key with hk | hk | hk
    · exact absurd (Or.inr ⟨heq, hk⟩) h
    · exact absurd (by cases a; cases b; exact congr (congrArg _ heq) hk) hne
    · exact Or.inr ⟨heq.symm, hk⟩
  · exact Or.inl hgt

theorem pairwise_insert {r : Reference} {l : List Reference} (h : l.Pairwise Precedes) :
    (insert r l).Pairwise Precedes := by
  induction l with
  | nil => exact List.pairwise_singleton _ _
  | cons s rest ih =>
    obtain ⟨hs, hrest⟩ := List.pairwise_cons.mp h
    unfold insert
    split
    next => exact h
    next hne =>
      split
      next hrs =>
        refine List.pairwise_cons.mpr ⟨?_, h⟩
        intro t ht
        have hrs := precedes_iff.mp hrs
        rcases List.mem_cons.mp ht with rfl | ht
        · exact hrs
        · exact hrs.trans (hs t ht)
      next hrs =>
        refine List.pairwise_cons.mpr ⟨?_, ih hrest⟩
        intro t ht
        rcases mem_insert.mp ht with rfl | ht
        · exact Precedes.of_not hne fun h => hrs (precedes_iff.mpr h)
        · exact hs t ht

theorem pairwise_ascending (refs : List Reference) : (ascending refs).Pairwise Precedes := by
  induction refs with
  | nil => exact List.Pairwise.nil
  | cons r rest ih => exact pairwise_insert ih

theorem nodup_of_pairwise {l : List Reference} (h : l.Pairwise Precedes) : l.Nodup := by
  apply h.imp
  rintro a b hab rfl
  exact Precedes.irrefl a hab

/-- An ascending list is determined by its members. -/
theorem eq_of_mem_iff {l m : List Reference} (hl : l.Pairwise Precedes) (hm : m.Pairwise Precedes)
    (h : ∀ r, r ∈ l ↔ r ∈ m) : l = m := by
  have hperm : l.Perm m :=
    (List.perm_ext_iff_of_nodup (nodup_of_pairwise hl) (nodup_of_pairwise hm)).mpr h
  apply hperm.eq_of_pairwise _ hl hm
  intro a b _ _ hab hba
  exact absurd (hab.trans hba) (Precedes.irrefl a)

theorem ascending_congr {l m : List Reference} (h : ∀ r, r ∈ l ↔ r ∈ m) : ascending l = ascending m :=
  eq_of_mem_iff (pairwise_ascending l) (pairwise_ascending m) fun r => by
    rw [mem_ascending, mem_ascending, h]

end ObjectIntake.Event.Reference
