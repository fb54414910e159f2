import ObjectIntake.Proofs.Checkpoint.Store
import ObjectIntake.Proofs.FileTree.Sound

/-!
After any attempts at saving the checkpoint is loaded that the last successful one saved, and null if none was
successful, provided that null was loaded at first and would be once the directories above the file are there. A
step up after a directory that is still missing can lead to a file only when it has been made.
-/
namespace ObjectIntake.Checkpoint.Store
open FileTree Text

variable {t : FileTree} {path : FilePath}

/-- One attempt at saving: what goes wrong in it, what it saves and when. -/
structure Attempt where
  hazards : Hazards
  token : String
  stamp : String

def Attempt.runOn (a : Attempt) (path : FilePath) (t : FileTree) : FileTree × Except FileFault Unit :=
  saveIn a.hazards t path (.str a.token) a.stamp

/-- Saving is the attempt in which nothing goes wrong but what the tree makes go wrong. -/
theorem save_eq_runOn (path : FilePath) (token stamp : String) (scene : Scene FileTree) :
    ((save path (.str token) stamp).runIn scene).2.world = ((Attempt.mk calm token stamp).runOn path scene.world).1 ∧
      (((save path (.str token) stamp).runIn scene).1 = .ok () ↔
        ((Attempt.mk calm token stamp).runOn path scene.world).2 = .ok ()) := by
  change (save path (.str token) stamp scene).2.world = _ ∧ ((save path (.str token) stamp scene).1 = _ ↔ _)
  unfold save Attempt.runOn
  rcases saveIn calm scene.world path (.str token) stamp with ⟨u, e | _⟩
  · exact ⟨rfl, by simp⟩
  · exact ⟨rfl, by simp⟩

/-- The tree and the token saved last after one more attempt. -/
def attempted (path : FilePath) (state : FileTree × Option String) (a : Attempt) : FileTree × Option String :=
  match a.runOn path state.1 with
  | (u, .ok _) => (u, some a.token)
  | (u, .error _) => (u, state.2)

/-- The tree after some attempts, and the token that the last successful one saved. -/
def saveEach (path : FilePath) (t : FileTree) (attempts : List Attempt) : FileTree × Option String :=
  attempts.foldl (attempted path) (t, none)

/-- What attempts make of a tree: its directories are made, or the file of the last token is in place. -/
inductive Kept (t : FileTree) (path : FilePath) : FileTree × Option String → Prop where
  | untouched : Kept t path (t, none)
  | ready : Kept t path (prepared t path, none)
  | saved {u : FileTree} {token stamp : String} {place : Place}
      (hfind : u.find path.steps = .ok (.file place (Utf8.encode (fileText (.str token) stamp).toList))) :
      Kept t path (u, some token)

theorem Kept.attempted {state : FileTree × Option String} (h : Kept t path state) (a : Attempt) :
    Kept t path (attempted path state a) := by
  have hstart : prepared state.1 path = prepared t path ∧ state.2 = none ∨ prepared state.1 path = state.1 := by
    cases h with
    | untouched => exact .inl ⟨rfl, rfl⟩
    | ready => exact .inl ⟨prepared_prepared t path, rfl⟩
    | saved hfind => exact .inr (prepared_of_find hfind)
  obtain ⟨tree, last⟩ := state
  unfold Store.attempted
  rcases hrun : a.runOn path tree with ⟨u, r⟩
  cases saves_of_saveIn hrun with
  | failed e =>
    rcases hstart with ⟨hprepared, rfl⟩ | hsame
    · dsimp only at hprepared ⊢
      rw [hprepared]
      exact .ready
    · dsimp only at hsame ⊢
      rw [hsame]
      exact h
  | replaced hfind => exact .saved hfind

theorem kept_saveEach (t : FileTree) (path : FilePath) (attempts : List Attempt) :
    Kept t path (saveEach path t attempts) := by
  unfold saveEach
  induction attempts using List.reverseRecOn with
  | nil => exact .untouched
  | append_singleton attempts a ih =>
    rw [List.foldl_append]
    exact ih.attempted a

theorem Kept.load_eq {depth : Nat} {state : FileTree × Option String} (h : Kept t path state)
    (hnull : load (depth + 1) t path = .ok .null) (hprepared : load (depth + 1) (prepared t path) path = .ok .null) :
    load (depth + 1) state.1 path = .ok (.ofOption state.2) := by
  cases h with
  | untouched => exact hnull
  | ready => exact hprepared
  | saved hfind => exact load_of_find depth path _ _ hfind

/-- An attempt in which everything goes wrong makes the directories at most. -/
theorem runOn_hazardous (t : FileTree) (path : FilePath) (e : FileFault) (token stamp : String) :
    ∃ fault, (Attempt.mk (fun _ => some e) token stamp).runOn path t = (prepared t path, .error fault) := by
  unfold Attempt.runOn saveIn prepared
  rcases t.ensureDirectory path.parentSteps with ⟨u, fault | _⟩
  · exact ⟨fault, rfl⟩
  · exact ⟨e, rfl⟩

theorem load_of_absent (depth : Nat) (habsent : t.Absent path.steps) (hfits : Fits path.steps) :
    load depth t path = .ok .null := by
  unfold load
  cases hfind : t.find path.steps with
  | ok found =>
    obtain ⟨above, name, rfl⟩ := habsent found hfind
    rfl
  | error e => rcases find_eq_error hfits hfind with rfl | rfl | rfl <;> rfl

theorem absent_prepared (hsound : t.Sound) (hdown : Downward path.steps) (hfits : Fits path.steps)
    (habsent : t.Absent path.steps) : (prepared t path).Absent path.steps := by
  rcases steps_cases path with ⟨-, hdirectory⟩ | ⟨name, hsteps⟩
  · obtain ⟨place, hfind⟩ := isDirectoryAt_iff.mp (hdirectory t)
    obtain ⟨above, name, heq⟩ := habsent _ hfind
    cases heq
  · unfold prepared
    rw [hsteps] at hdown hfits habsent ⊢
    exact habsent.ensureDirectory hsound hdown hfits

/-- Saving is all or nothing, and what is loaded after any number of attempts is what was saved last. A reader is taken
for it that goes into an object. -/
theorem saving_is_atomic (depth : Nat) (t : FileTree) (path : FilePath) :
    (∀ a : Attempt, match a.runOn path t with
      | (u, .ok _) => load (depth + 1) u path = .ok (.str a.token) ∧
          ∃ place content, u.find path.steps = .ok (.file place content) ∧
            ∀ p, p ≠ place → u.content? p = t.content? p
      | (u, .error _) => u.files = t.files ∧ ∀ found, t.find path.steps = .ok found → u = t) ∧
    ((∀ attempts, load (depth + 1) (saveEach path t attempts).1 path = .ok (.ofOption (saveEach path t attempts).2)) ↔
      load (depth + 1) t path = .ok .null ∧ load (depth + 1) (prepared t path) path = .ok .null) ∧
    (t.Sound → Downward path.steps → Fits path.steps → t.Absent path.steps →
      ∀ attempts,
        load (depth + 1) (saveEach path t attempts).1 path = .ok (.ofOption (saveEach path t attempts).2)) := by
  refine ⟨fun a => ?_, ⟨fun h => ⟨h [], ?_⟩, fun h attempts => ?_⟩, fun hsound hdown hfits habsent attempts => ?_⟩
  · rcases hrun : a.runOn path t with ⟨u, r⟩
    cases saves_of_saveIn hrun with
    | failed e => exact ⟨files_prepared t path, fun found hfind => prepared_of_find hfind⟩
    | replaced hfind =>
      refine ⟨load_of_find depth path a.token a.stamp hfind, _, _, hfind, fun p hp => ?_⟩
      rw [content?_write, if_neg hp, content?_prepared]
  · obtain ⟨fault, hrun⟩ := runOn_hazardous t path .exists "" ""
    have hload := h [⟨fun _ => some .exists, "", ""⟩]
    simpa [saveEach, attempted, hrun, Json.ofOption] using hload
  · exact (kept_saveEach t path attempts).load_eq h.1 h.2
  · exact (kept_saveEach t path attempts).load_eq (load_of_absent _ habsent hfits)
      (load_of_absent _ (absent_prepared hsound hdown hfits habsent) hfits)

/-- A token is saved in an empty directory, and then the next one cannot be put in its place. -/
theorem saving_is_atomic_replaceFails :
    let path : FilePath := ⟨"", ["c.json"]⟩
    let stuck : Hazards := fun step => if step = .replace then some .inUse else none
    load 1 (saveEach path {} [⟨calm, "12", ""⟩, ⟨stuck, "13", ""⟩]).1 path = .ok (.str "12") := by
  intro path stuck
  have hdown : Downward path.steps := .inl fun name hname => by
    rw [List.mem_singleton.mp hname]
    decide
  have hfits : Fits path.steps := ⟨fun name hname => by rw [List.mem_singleton.mp hname]; rfl, by decide⟩
  have habsent : ({} : FileTree).Absent path.steps := fun found h => by
    have hfind : ({} : FileTree).find path.steps = .ok (.vacant [] "c.json") := by decide +kernel
    rw [hfind] at h
    cases h
    exact ⟨[], "c.json", rfl⟩
  have hlast : (saveEach path {} [⟨calm, "12", ""⟩, ⟨stuck, "13", ""⟩]).2 = some "12" := by decide +kernel
  rw [(saving_is_atomic 0 {} path).2.2 sound_empty hdown hfits habsent, hlast]
  rfl

/-- A path that goes up again from a directory that may not be there. -/
def detour : FilePath := ⟨"", ["a", "..", "d"]⟩

/-- A tree in which the detour leads to a directory once it is open. -/
def detourTree : FileTree := { directories := [["d"]] }

/-- A path with a name that no file can have. -/
def overlong : FilePath := ⟨"", [String.ofList (List.replicate 256 'x')]⟩

theorem load_of_nameTooLong (depth : Nat) (h : t.find path.steps = .error .nameTooLong) :
    load depth t path = .error (.file .nameTooLong) := by
  rw [load, h]

theorem find_overlong (t : FileTree) : t.find overlong.steps = .error .nameTooLong := by
  have hlength : (Utf8.encode (List.replicate 256 'x')).length = 256 := by
    rw [Utf8.encode, List.length_flatMap, List.map_replicate, List.sum_replicate_nat]
    rfl
  have hname : (String.ofList (List.replicate 256 'x')).toList = List.replicate 256 'x' := String.toList_ofList
  rw [← hname] at hlength
  have hnull : hasNull (String.ofList (List.replicate 256 'x')) = false := by
    rw [hasNull, hname, List.contains_replicate]
    rfl
  unfold overlong FilePath.steps
  generalize String.ofList (List.replicate 256 'x') = name at hlength hnull
  have hne {s : String} (hs : (Utf8.encode s.toList).length ≠ 256) : name ≠ s := by
    rintro rfl
    exact hs hlength
  have hroot : name ≠ "/" := hne (by decide)
  have hup : name ≠ ".." := hne (by decide)
  simp [find, walk, pathFits, pathLimit, fits, nameLimit, Text.join, hnull, hroot, hup, hlength]

/-- Where nothing was, a save that fails can open the way to what is there, and what cannot be looked up is not
null. -/
theorem load_after_detour :
    (detourTree.Absent detour.steps ∧ (saveEach detour detourTree [⟨calm, "8", ""⟩]).2 = none ∧
      load Json.usualDepth (saveEach detour detourTree [⟨calm, "8", ""⟩]).1 detour = .error (.file .isDirectory)) ∧
    (detourTree.Absent overlong.steps ∧ (saveEach overlong detourTree []).2 = none ∧
      load Json.usualDepth (saveEach overlong detourTree []).1 overlong = .error (.file .nameTooLong)) := by
  have hdetour : detourTree.find detour.steps = .error .notFound := rfl
  refine ⟨⟨fun found h => ?_, rfl, rfl⟩, fun found h => ?_, rfl, load_of_nameTooLong _ (find_overlong detourTree)⟩
  · rw [hdetour] at h
    cases h
  · rw [find_overlong] at h
    cases h

end ObjectIntake.Checkpoint.Store
