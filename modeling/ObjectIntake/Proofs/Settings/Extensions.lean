import ObjectIntake.Proofs.Settings.Source
import ObjectIntake.Proofs.Text.Blank
import ObjectIntake.Proofs.Text.Search

/-!
The endings of keys that settings list. They are the entries of the extensions, and the format stands in for
extensions that are not given; extensions of commas and blanks list nothing, and nothing stands in for them.
-/
namespace ObjectIntake.Settings
open Text

/-- The entry stands between commas, without the blanks around it. -/
structure Names (raw entry : String) : Prop where
  filled : entry ≠ ""
  between : ∃ piece, Between ',' raw.toList piece ∧ Trims isBlank piece entry.toList

/-- There is nothing but commas and blanks. -/
def NamesNothing (raw : String) : Prop := ∀ c ∈ raw.toList, c = ',' ∨ isBlank c = true

theorem strip_ofList_eq_iff {piece : List Char} {entry : String} :
    strip (String.ofList piece) = entry ↔ Trims isBlank piece entry.toList := by
  rw [← eq_trim_iff, strip, String.toList_ofList, ← String.toList_inj, String.toList_ofList, eq_comm]

namespace SourceSettings

theorem mem_entries {raw entry : String} : entry ∈ entries raw ↔ Names raw entry := by
  simp only [entries, split, List.map_map, List.mem_filter, List.mem_map, Function.comp_apply, decide_eq_true_eq,
    strip_ofList_eq_iff, mem_pieces_iff]
  exact ⟨fun ⟨hbetween, hfilled⟩ => ⟨hfilled, hbetween⟩, fun ⟨hfilled, hbetween⟩ => ⟨hbetween, hfilled⟩⟩

theorem entries_eq_nil_iff {raw : String} : entries raw = [] ↔ NamesNothing raw := by
  have hblank (piece : List Char) : strip (String.ofList piece) = "" ↔ ∀ c ∈ piece, isBlank c = true := by
    rw [strip, String.toList_ofList, String.ofList_eq_empty_iff, trim_eq_nil_iff]
  have hpieces : entries raw = [] ↔ ∀ piece ∈ pieces ',' raw.toList, ∀ c ∈ piece, isBlank c = true := by
    simp [entries, split, List.filter_eq_nil_iff, hblank]
  exact hpieces.trans forall_mem_pieces_iff

variable {s : SourceSettings}

/-- The endings listed: the entries of the extensions, and if they have none, those of the format. -/
def Lists (s : SourceSettings) (entry : String) : Prop :=
  (∃ raw, s.fileExtensions = some raw ∧ Names raw entry) ∨
    (∀ raw, s.fileExtensions = some raw → NamesNothing raw) ∧ Names s.fileFormat entry

/-- The key has one of the endings listed, if any are. -/
def Admits (s : SourceSettings) (key : String) : Prop :=
  (∃ entry, s.Lists entry) → ∃ entry, s.Lists entry ∧ entry.toList <:+ key.toList

/-- Extensions are given that list nothing. -/
def HollowExtensions (s : SourceSettings) : Prop := ∃ raw, s.fileExtensions = some raw ∧ NamesNothing raw

theorem ofOption_ne_blank {o : Option String} (h : Kind.Has .optionalText (Json.ofOption o)) :
    ∀ raw, o = some raw → isBlankText raw = false := by
  rintro raw rfl
  cases h with
  | someText h => exact h

/-- Extensions that are read from anywhere are not blank. -/
theorem extensions_not_blank {given : SourceField → Option Json} {around : Surroundings}
    (hs : build given around = .ok s) : ∀ raw, s.fileExtensions = some raw → isBlankText raw = false := by
  apply ofOption_ne_blank
  have hsettles := build_eq_ok_iff.mp hs .fileExtensions
  unfold Settles at hsettles
  split at hsettles
  next j _ => exact Kind.has_of_read hsettles
  next =>
    have hnull : Json.ofOption s.fileExtensions = .null := hsettles
    rw [hnull]
    exact .noText

section Endings

variable (hblank : ∀ raw, s.fileExtensions = some raw → isBlankText raw = false)
include hblank

theorem mem_extensions {entry : String} : entry ∈ s.extensions ↔ ¬ s.HollowExtensions ∧ s.Lists entry := by
  unfold extensions HollowExtensions Lists
  cases hraw : s.fileExtensions with
  | none => simp [mem_entries]
  | some raw =>
    have hne : raw ≠ "" := by
      rintro rfl
      exact absurd (hblank "" hraw) (by decide)
    simp only [if_neg hne, mem_entries, Option.some.injEq, exists_eq_left', forall_eq']
    constructor
    · intro hentry
      refine ⟨fun hnothing => ?_, .inl hentry⟩
      have hmem := mem_entries.mpr hentry
      rw [entries_eq_nil_iff.mpr hnothing] at hmem
      exact List.not_mem_nil hmem
    · rintro ⟨hsome, hentry | ⟨hnothing, -⟩⟩
      · exact hentry
      · exact absurd hnothing hsome

/-- Endings are looked at as they are listed, unless extensions are given that list nothing. -/
theorem ends_iff {key : String} : (s.extensions ≠ [] → ∃ e ∈ s.extensions, e.toList <:+ key.toList) ↔
    s.HollowExtensions ∨ s.Admits key := by
  by_cases hhollow : s.HollowExtensions
  · have hnil : s.extensions = [] :=
      List.eq_nil_iff_forall_not_mem.mpr fun e he => ((mem_extensions hblank).mp he).1 hhollow
    exact iff_of_true (fun hne => absurd hnil hne) (.inl hhollow)
  · have hmem (e : String) : e ∈ s.extensions ↔ s.Lists e := by
      rw [mem_extensions hblank, and_iff_right hhollow]
    have hne : s.extensions ≠ [] ↔ ∃ e, s.Lists e := by
      rw [ne_eq, List.eq_nil_iff_forall_not_mem]
      simp only [hmem, not_forall, not_not]
    simp only [or_iff_right hhollow, Admits, hne, hmem]

end Endings

end SourceSettings
end ObjectIntake.Settings
