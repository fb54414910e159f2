import Mathlib.Data.List.DropRight
import ObjectIntake.Text.Blank

/-! Cutting characters off the ends of a text leaves what stands between them. -/
namespace ObjectIntake.Text

/-- The text `t` is what is left of `s` between the characters at its ends for which `p` holds. -/
structure Trims (p : Char → Bool) (s t : List Char) : Prop where
  around : ∃ before after, s = before ++ (t ++ after) ∧ (∀ c ∈ before, p c = true) ∧ ∀ c ∈ after, p c = true
  first : ∀ c ∈ t.head?, p c = false
  last : ∀ c ∈ t.getLast?, p c = false

variable {p : Char → Bool} {s t : List Char}

theorem head?_dropWhile (p : Char → Bool) (s : List Char) : ∀ c ∈ (s.dropWhile p).head?, p c = false := by
  intro c hc
  have hfirst := List.head?_dropWhile_not p s
  rw [hc] at hfirst
  simpa using hfirst

theorem trims_trim (p : Char → Bool) (s : List Char) : Trims p s (trim p s) := by
  have hright : trim p s = (s.dropWhile p).rdropWhile p := rfl
  have hcut : (s.dropWhile p).rdropWhile p ++ (s.dropWhile p).rtakeWhile p = s.dropWhile p :=
    List.rdropWhile_append_rtakeWhile ..
  rw [hright]
  constructor
  case around =>
    refine ⟨s.takeWhile p, (s.dropWhile p).rtakeWhile p, ?_, fun c hc => List.mem_takeWhile_imp hc, fun c hc => ?_⟩
    · rw [hcut, List.takeWhile_append_dropWhile]
    · exact List.mem_rtakeWhile_imp hc
  case first =>
    intro c hc
    refine head?_dropWhile p s c ?_
    rw [Option.mem_def] at hc ⊢
    rw [← hcut, List.head?_append, hc, Option.some_or]
  case last =>
    intro c hc
    obtain ⟨hne, rfl⟩ := List.mem_getLast?_eq_getLast hc
    exact Bool.eq_false_iff.mpr (List.rdropWhile_last_not p _ hne)

theorem dropWhile_eq_self (h : ∀ c ∈ s.head?, p c = false) : s.dropWhile p = s := by
  cases s with
  | nil => rfl
  | cons c r => exact List.dropWhile_cons_of_neg (Bool.eq_false_iff.mp (h c rfl))

theorem Trims.eq_trim (h : Trims p s t) : t = trim p s := by
  obtain ⟨before, after, rfl, hbefore, hafter⟩ := h.around
  have hends : ∀ c ∈ after.reverse, p c = true := fun c hc => hafter c (List.mem_reverse.mp hc)
  have hlast : t.reverse.dropWhile p = t.reverse := dropWhile_eq_self fun c hc => h.last c (List.head?_reverse ▸ hc)
  rw [trim, trimLeft, trimRight, List.dropWhile_append_of_pos hbefore]
  cases t with
  | nil =>
    have hnil : after.dropWhile p = [] := List.dropWhile_eq_nil_iff.mpr hafter
    rw [List.nil_append, hnil]
    rfl
  | cons c r =>
    have hfirst : (c :: r ++ after).dropWhile p = c :: r ++ after := dropWhile_eq_self h.first
    rw [hfirst, List.reverse_append, List.dropWhile_append_of_pos hends, hlast, List.reverse_reverse]

theorem eq_trim_iff : t = trim p s ↔ Trims p s t := by
  constructor
  · rintro rfl
    exact trims_trim p s
  · exact Trims.eq_trim

theorem trim_eq_nil_iff : trim p s = [] ↔ ∀ c ∈ s, p c = true := by
  constructor
  · intro h
    obtain ⟨before, after, hs, hbefore, hafter⟩ := (trims_trim p s).around
    rw [h, List.nil_append] at hs
    rw [hs, List.forall_mem_append]
    exact ⟨hbefore, hafter⟩
  · intro h
    refine (Trims.eq_trim ⟨⟨s, [], by simp, h, by simp⟩, by simp, by simp⟩).symm

end ObjectIntake.Text
