import Mathlib.Data.List.Nodup
import Mathlib.Data.List.Perm.Subperm
import ObjectIntake.Checkpoint.Store
import ObjectIntake.Proofs.FileTree.Directories

/-!
Saving either puts the whole new file in place or leaves the tree as it was once the directories above it were
made. The temporary file is a new one, since there are more names for it than there are files and directories, so
it is gone without a trace however far saving got.
-/
namespace ObjectIntake.Checkpoint.Store
open FileTree Text

theorem temporaryName_injective (name : String) : Function.Injective (temporaryName name) := by
  have hvalue (n : Nat) : Nat.ofDigitChars 10
      (List.replicate (8 - (Nat.toDigits 10 n).length) '0' ++ Nat.toDigits 10 n) 0 = n := by
    rw [Nat.ofDigitChars_append, Nat.ofDigitChars_replicate_zero, Nat.mul_zero, Nat.ofDigitChars_ten_toDigits]
  intro m n h
  have hchars := congrArg String.toList h
  simp only [temporaryName, String.toList_append, String.toList_ofList, List.append_cancel_left_eq] at hchars
  rw [← hvalue m, hchars, hvalue n]

theorem temporaryName_ne_slash (name : String) (n : Nat) : temporaryName name n ≠ "/" := by
  intro h
  have hchars := congrArg String.toList h
  simp [temporaryName] at hchars

section Names

variable {t : FileTree} {directory : Place} {name : String}

/-- Something in the directory has the name. -/
def Taken (t : FileTree) (directory : Place) (name : String) : Prop :=
  ((t.content? (directory ++ [name])).isSome || t.isDirectory (directory ++ [name])) = true

theorem mem_of_taken {n : Nat} (h : Taken t directory (temporaryName name n)) :
    directory ++ [temporaryName name n] ∈ t.files.map Prod.fst ++ t.directories := by
  unfold Taken at h
  rw [Bool.or_eq_true, Option.isSome_iff_exists] at h
  rw [List.mem_append]
  rcases h with ⟨content, hcontent⟩ | hdirectory
  · obtain ⟨before, after, hfiles, -⟩ := List.lookup_eq_some_iff.mp hcontent
    left
    simp [hfiles]
  · have hroot : directory ++ [temporaryName name n] ≠ root := by
      simp [root, List.append_eq_cons_iff, temporaryName_ne_slash]
    right
    simpa [isDirectory, hroot] using hdirectory

/-- A name that is taken is chosen only after all others were. -/
theorem taken_of_freeName {fuel n : Nat} (h : Taken t directory (freeName t directory name fuel n)) :
    ∀ i < fuel, Taken t directory (temporaryName name (n + i)) := by
  induction fuel generalizing n with
  | zero => simp
  | succ fuel ih =>
    unfold freeName at h
    dsimp only at h
    split at h
    next htaken =>
      intro i hi
      cases i with
      | zero => exact htaken
      | succ i =>
        rw [Nat.add_succ, ← Nat.succ_add]
        exact ih h i (Nat.lt_of_succ_lt_succ hi)
    next hfree => exact absurd h hfree

theorem not_taken_freeName (t : FileTree) (directory : Place) (name : String) :
    ¬ Taken t directory (freeName t directory name (t.files.length + t.directories.length + 1) 0) := by
  intro h
  have htaken := taken_of_freeName h
  let candidates := (List.range (t.files.length + t.directories.length + 1)).map
    fun n => directory ++ [temporaryName name n]
  have hnodup : candidates.Nodup := by
    refine List.Nodup.map (fun m n hmn => temporaryName_injective name ?_) List.nodup_range
    simpa using hmn
  have hsubset : candidates ⊆ t.files.map Prod.fst ++ t.directories := by
    intro place hplace
    obtain ⟨n, hn, rfl⟩ := List.mem_map.mp hplace
    have htakenN := htaken n (List.mem_range.mp hn)
    rw [Nat.zero_add] at htakenN
    exact mem_of_taken htakenN
  have hlength := (List.subperm_of_subset hnodup hsubset).length_le
  simp only [candidates, List.length_map, List.length_range, List.length_append] at hlength
  omega

end Names

variable {t u : FileTree} {path : FilePath} {content : List UInt8} {hazards : Hazards}

theorem createTemporary_eq_ok {temporary : Place} (h : createTemporary t path = .ok (u, temporary)) :
    u = t.write temporary [] ∧ t.content? temporary = none := by
  unfold createTemporary at h
  split at h
  next directory _ =>
    dsimp only at h
    split at h
    next => cases h
    next =>
      split at h
      next => cases h
      next =>
        cases h
        refine ⟨rfl, ?_⟩
        have hfree := not_taken_freeName t directory path.name
        simp only [Taken, Bool.or_eq_true, not_or, Bool.not_eq_true, Option.isSome_eq_false_iff,
          Option.isNone_iff_eq_none] at hfree
        exact hfree.1
  next => cases h
  next => cases h

/-- The tree with the directories above a path made, as far as they can be. -/
def prepared (t : FileTree) (path : FilePath) : FileTree := (t.ensureDirectory path.parentSteps).1

theorem files_prepared (t : FileTree) (path : FilePath) : (prepared t path).files = t.files :=
  files_ensureAbove t _

theorem content?_prepared (t : FileTree) (path : FilePath) (p : Place) :
    (prepared t path).content? p = t.content? p := by
  rw [content?, content?, files_prepared]

theorem prepared_prepared (t : FileTree) (path : FilePath) : prepared (prepared t path) path = prepared t path :=
  ensureAbove_idempotent t _

/-- The last step follows those to the directory above, unless the path names the directory in which it starts. -/
theorem steps_cases (path : FilePath) :
    path.steps = path.parentSteps ∧ (∀ t : FileTree, t.isDirectoryAt path.steps = true) ∨
      ∃ name, path.steps = path.parentSteps ++ [name] := by
  unfold FilePath.steps FilePath.parentSteps
  rcases List.eq_nil_or_concat path.names with hnil | ⟨names, name, hconcat⟩
  · left
    rw [hnil]
    split <;> exact ⟨rfl, fun t => rfl⟩
  · right
    refine ⟨name, ?_⟩
    rw [hconcat]
    split <;> simp

theorem isDirectoryAt_parentSteps {found : Found} (h : t.find path.steps = .ok found) :
    t.isDirectoryAt path.parentSteps = true := by
  rcases steps_cases path with ⟨hsteps, hdirectory⟩ | ⟨name, hsteps⟩
  · rw [← hsteps]
    exact hdirectory t
  · rw [hsteps] at h
    exact isDirectoryAt_iff.mpr (find_of_concat h)

theorem prepared_of_find {found : Found} (h : t.find path.steps = .ok found) : prepared t path = t := by
  have hdirectory := isDirectoryAt_parentSteps h
  rw [← path.parentSteps.reverse_reverse] at hdirectory
  rw [prepared, ensureDirectory, ensureAbove_of_isDirectoryAt hdirectory]

/-- What comes of saving: nothing, or the file is in place. -/
inductive Saves (t : FileTree) (path : FilePath) (content : List UInt8) :
    FileTree → Except FileFault Unit → Prop where
  | failed (e : FileFault) : Saves t path content t (.error e)
  | replaced {place : Place} (hfind : (t.write place content).find path.steps = .ok (.file place content)) :
      Saves t path content (t.write place content) (.ok ())

theorem saves_of_fillAndReplace {temporary : Place} {r : Except FileFault Unit}
    (hfree : t.content? temporary = none)
    (h : fillAndReplace hazards (t.write temporary []) path temporary content = (u, r)) :
    Saves t path content u r := by
  have hgone (content : List UInt8) : (t.write temporary content).remove temporary = t := remove_write hfree
  unfold fillAndReplace attempt at h
  rw [write_write] at h
  cases hwrite : hazards .write with
  | some e =>
    simp only [hwrite, hgone] at h
    cases h
    exact .failed e
  | none =>
    simp only [hwrite] at h
    split at h
    next e _ =>
      rw [hgone] at h
      cases h
      exact .failed e
    next v hreplace =>
      cases h
      split at hreplace
      next => cases hreplace
      next =>
        obtain ⟨place, htarget, rfl⟩ := replace_eq_ok hreplace (content?_write_self _ _ _)
        rw [hgone]
        exact .replaced (find_of_target htarget rfl (content?_write_self _ _ _))

theorem saves_of_saveIn {checkpoint : Json} {stamp : String} {r : Except FileFault Unit}
    (h : saveIn hazards t path checkpoint stamp = (u, r)) :
    Saves (prepared t path) path (Utf8.encode (fileText checkpoint stamp).toList) u r := by
  unfold saveIn at h
  unfold prepared
  rcases hdirectory : t.ensureDirectory path.parentSteps with ⟨v, _ | _⟩
  · rw [hdirectory] at h
    cases h
    exact .failed _
  · rw [hdirectory] at h
    dsimp only at h ⊢
    split at h
    next e _ =>
      cases h
      exact .failed e
    next w temporary hcreate =>
      unfold attempt at hcreate
      split at hcreate
      next => cases hcreate
      next =>
        obtain ⟨rfl, hfree⟩ := createTemporary_eq_ok hcreate
        exact saves_of_fillAndReplace hfree h

end ObjectIntake.Checkpoint.Store
