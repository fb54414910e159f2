import Mathlib.Data.List.Basic
import ObjectIntake.FileTree

/-!
Where a file can be written it is found afterwards, with the content that was written, and a file that is removed
again was never there.
-/
namespace ObjectIntake.FileTree

variable {t u : FileTree} {place : Place} {content : List UInt8}

theorem content?_write_self (t : FileTree) (place : Place) (content : List UInt8) :
    (t.write place content).content? place = some content := by
  simp [content?_write]

theorem isDirectory_congr (h : u.directories = t.directories) (p : Place) : u.isDirectory p = t.isDirectory p := by
  simp [isDirectory, h]

/-- The way to a file leads through directories only, so it is the same in a tree with the same directories. -/
theorem walk_of_content (hdirectories : u.directories = t.directories) (hcontent : u.content? place = some content)
    {steps : List String} {start : Place}
    (h : (∃ old, t.walk start steps = .ok (.file place old)) ∨
      ∃ above name, t.walk start steps = .ok (.vacant above name) ∧ place = above ++ [name]) :
    u.walk start steps = .ok (.file place content) := by
  induction steps generalizing start with
  | nil =>
    rcases h with ⟨old, h⟩ | ⟨above, name, h, -⟩
    · cases h
    · cases h
  | cons name rest ih =>
    unfold walk at h ⊢
    by_cases hroot : name = "/"
    · simp only [hroot, if_true] at h ⊢
      exact ih h
    by_cases hup : name = ".."
    · simp only [hup, if_true] at h ⊢
      exact ih h
    by_cases hlong : (!fits name) = true
    · simp [hroot, hup, hlong] at h
    rw [isDirectory_congr hdirectories]
    by_cases hdirectory : t.isDirectory (start ++ [name]) = true
    · simp only [hroot, hup, hlong, hdirectory, if_true, if_false] at h ⊢
      exact ih h
    simp only [hroot, hup, hlong, hdirectory, if_false] at h ⊢
    -- Here the way ends, so this is the place itself.
    cases hold : t.content? (start ++ [name]) with
    | some old =>
      cases rest with
      | nil =>
        obtain rfl : start ++ [name] = place := by simpa [hold] using h
        simp [hcontent]
      | cons next rest => simp [hold] at h
    | none =>
      cases rest with
      | nil =>
        obtain rfl : place = start ++ [name] := by simpa [hold] using h
        simp [hcontent]
      | cons next rest => simp [hold] at h

/-- A file is found at the steps to a place where it could be written. -/
theorem find_of_target {steps : List String} (htarget : t.target steps = .ok place)
    (hdirectories : u.directories = t.directories) (hcontent : u.content? place = some content) :
    u.find steps = .ok (.file place content) := by
  unfold target find at htarget
  unfold find
  by_cases hnull : steps.any hasNull = true
  · simp [hnull] at htarget
  by_cases hlong : (!pathFits steps) = true
  · simp [hnull, hlong] at htarget
  simp only [hnull, hlong] at htarget ⊢
  apply walk_of_content hdirectories hcontent
  split at htarget
  next => cases htarget
  next => cases htarget
  next found old hfound =>
    cases htarget
    exact .inl ⟨old, hfound⟩
  next above name hfound =>
    cases htarget
    exact .inr ⟨above, name, hfound, rfl⟩

/-- The file that takes the place of another is gone from its own. -/
theorem replace_eq_ok {source : Place} {steps : List String} (h : t.replace source steps = .ok u)
    (hsource : t.content? source = some content) :
    ∃ place, t.target steps = .ok place ∧ u = (t.remove source).write place content := by
  unfold replace at h
  rw [hsource] at h
  cases htarget : t.target steps with
  | error e =>
    rw [htarget] at h
    cases h
  | ok place =>
    rw [htarget] at h
    cases h
    exact ⟨place, rfl, rfl⟩

theorem write_write (t : FileTree) (place : Place) (old content : List UInt8) :
    (t.write place old).write place content = t.write place content := by
  obtain ⟨directories, files⟩ := t
  simp only [write, mk.injEq, true_and]
  induction files with
  | nil => simp [setContent]
  | cons f rest ih =>
    by_cases hf : f.1 = place
    · simp [setContent, hf]
    · simp [setContent, hf, ih]

/-- A new file that is removed again leaves nothing behind. -/
theorem remove_write (h : t.content? place = none) : (t.write place content).remove place = t := by
  obtain ⟨directories, files⟩ := t
  simp only [content?, List.lookup_eq_none_iff, bne_iff_ne] at h
  simp only [write, remove, mk.injEq, true_and]
  induction files with
  | nil => simp [setContent]
  | cons f rest ih =>
    have hf : f.1 ≠ place := (h f (List.mem_cons_self ..)).symm
    have hrest := ih fun g hg => h g (List.mem_cons_of_mem _ hg)
    simpa [setContent, hf] using hrest

end ObjectIntake.FileTree
