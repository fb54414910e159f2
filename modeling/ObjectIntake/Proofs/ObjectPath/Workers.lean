import ObjectIntake.Proofs.ObjectPath.Survey

/-!
The workers of a survey in any order. A step is one worker inspecting the next of its references; the survey that
goes part by part is one of these runs, and every run ends with the same paths and drops.
-/
namespace ObjectIntake.ObjectPath
open Event

/-- A worker: the references left to it, and what it has found by now. -/
structure Worker where
  left : List Reference
  found : Survey := {}

/-- The workers in the order of their parts, and the paths probed by now in the order of the probes. -/
structure Crew where
  workers : List Worker
  asked : List String := []

namespace Crew

variable {s : Surveyor} {probe : String → Presence} {refs : List Reference} {n : Nat} {crew next last : Crew}

def start (s : Surveyor) (refs : List Reference) : Crew where
  workers := (parts s.workers refs).map fun part => { left := part }

/-- One of the workers inspects its next reference. -/
inductive Step (s : Surveyor) (probe : String → Presence) : Crew → Crew → Prop
  | inspect (before after : List Worker) (r : Reference) (rest : List Reference) (found : Survey)
      (asked : List String) :
      Step s probe ⟨before ++ ⟨r :: rest, found⟩ :: after, asked⟩
        ⟨before ++ ⟨rest, found.append (s.inspect probe r)⟩ :: after, asked ++ (s.inspect probe r).probed⟩

/-- So many steps lead from one crew to the other. -/
inductive Runs (s : Surveyor) (probe : String → Presence) : Nat → Crew → Crew → Prop
  | none (crew : Crew) : Runs s probe 0 crew crew
  | step {n : Nat} {crew next last : Crew} (first : Step s probe crew next) (more : Runs s probe n next last) :
      Runs s probe (n + 1) crew last

/-- What the workers have found by now, put together in the order of their parts. -/
def found (crew : Crew) : Survey := (crew.workers.map (·.found)).foldr Survey.append {}

/-- How many references are left. -/
def left (crew : Crew) : Nat := (crew.workers.map (·.left.length)).sum

/-- What each worker will have found in the end. -/
def due (s : Surveyor) (probe : String → Presence) (crew : Crew) : List Survey :=
  crew.workers.map fun worker => worker.found.append (s.inspectAll probe worker.left)

theorem Step.due_eq (h : Step s probe crew next) : next.due s probe = crew.due s probe := by
  cases h with
  | inspect before after r rest found asked =>
    unfold due
    rw [List.map_append, List.map_append, List.map_cons, List.map_cons, Surveyor.inspectAll_cons,
      Survey.append_assoc]

theorem Step.left_eq (h : Step s probe crew next) : crew.left = next.left + 1 := by
  cases h with
  | inspect before after r rest found asked =>
    simp only [left, List.map_append, List.map_cons, List.sum_append, List.sum_cons, List.length_cons]
    omega

theorem probed_found (crew : Crew) : crew.found.probed = crew.workers.flatMap (·.found.probed) := by
  obtain ⟨workers, asked⟩ := crew
  unfold found
  induction workers with
  | nil => rfl
  | cons worker rest ih =>
    rw [List.map_cons, List.foldr_cons, List.flatMap_cons, ← ih]
    rfl

/-- No probe is lost and none is made twice: those made are those that the workers noted. -/
theorem Step.asked_perm (h : Step s probe crew next) (hasked : crew.asked.Perm crew.found.probed) :
    next.asked.Perm next.found.probed := by
  cases h with
  | inspect before after r rest found asked =>
    rw [probed_found, List.flatMap_append, List.flatMap_cons] at hasked ⊢
    have hmore : (asked ++ (s.inspect probe r).probed).Perm
        ((before.flatMap (·.found.probed) ++ (found.probed ++ after.flatMap (·.found.probed))) ++
          (s.inspect probe r).probed) := hasked.append_right _
    refine hmore.trans ?_
    simp only [Survey.append, List.append_assoc]
    exact (List.perm_append_comm.append_left _).append_left _

theorem Runs.due_eq (h : Runs s probe n crew last) : last.due s probe = crew.due s probe := by
  induction h with
  | none => rfl
  | step first more ih => rw [ih, first.due_eq]

theorem Runs.left_eq (h : Runs s probe n crew last) : crew.left = last.left + n := by
  induction h with
  | none => rfl
  | step first more ih => rw [first.left_eq, ih, Nat.add_assoc]

theorem Runs.asked_perm (h : Runs s probe n crew last) (hasked : crew.asked.Perm crew.found.probed) :
    last.asked.Perm last.found.probed := by
  induction h with
  | none => exact hasked
  | step first more ih => exact ih (first.asked_perm hasked)

theorem due_start : (start s refs).due s probe = (parts s.workers refs).map (s.inspectAll probe) := by
  unfold due start
  rw [List.map_map]
  exact List.map_congr_left fun part _ => Survey.empty_append _

theorem left_start : (start s refs).left = refs.length := by
  have hlength := congrArg List.length (s.flatten_parts_workers refs)
  rw [List.length_flatten] at hlength
  unfold left start
  rw [List.map_map]
  exact hlength

theorem found_start : (start s refs).found = {} := by
  unfold found start
  induction parts s.workers refs with
  | nil => rfl
  | cons part rest ih =>
    rw [List.map_cons, List.map_cons, List.foldr_cons, ih]
    rfl

/-- A crew with references left can go on. -/
theorem exists_step (h : crew.left ≠ 0) : ∃ next, Step s probe crew next := by
  obtain ⟨workers, asked⟩ := crew
  obtain ⟨_, hmem, hpos⟩ := List.sum_pos_iff_exists_pos_nat.mp (Nat.pos_of_ne_zero h)
  obtain ⟨⟨left, found⟩, hworker, rfl⟩ := List.mem_map.mp hmem
  obtain ⟨before, after, rfl⟩ := List.append_of_mem hworker
  obtain ⟨r, rest, rfl⟩ := List.exists_cons_of_length_pos hpos
  exact ⟨_, .inspect before after r rest found asked⟩

/-- With no references left, what was found is what was due. -/
theorem due_of_left (h : crew.left = 0) : crew.due s probe = crew.workers.map (·.found) := by
  refine List.map_congr_left fun worker hworker => ?_
  have hnone : worker.left = [] := by
    rw [← List.length_eq_zero_iff]
    exact List.sum_eq_zero_iff_forall_eq_nat.mp h _ (List.mem_map_of_mem hworker)
  rw [hnone]
  exact Survey.append_empty _

/-- A run from the start is over when every reference was inspected, and it has found what one worker finds who goes
through all of them. -/
theorem Runs.found_eq (h : Runs s probe refs.length (start s refs) crew) :
    crew.found = s.inspectAll probe refs := by
  have hleft := h.left_eq
  rw [left_start] at hleft
  have hdue := h.due_eq
  rw [due_of_left (by omega), due_start] at hdue
  rw [found, hdue, s.foldr_append_inspectAll, s.flatten_parts_workers]

end Crew

namespace Surveyor

/-- What is kept, dropped and probed goes reference by reference, in their order, whatever the number of workers; and
the workers may take their steps in any order, for each run goes on to the end and finds the same. -/
theorem survey_any_order (s : Surveyor) (probe : String → Presence) (refs : List Reference) :
    let found := s.survey probe refs
    (∀ workers, { s with workers := workers }.survey probe refs = found) ∧
      found.paths = refs.filterMap (s.kept probe) ∧
      (∀ reason n, (reason, n) ∈ found.dropped.counts ↔
        n ≠ 0 ∧ ∃ loss : Loss, loss.name = reason ∧ n = (refs.filterMap (s.loss? probe)).count loss) ∧
      found.paths.length + (found.dropped.counts.map (·.2)).sum = refs.length ∧
      found.probed = refs.filterMap s.asked ∧
      ∀ n crew, Crew.Runs s probe n (Crew.start s refs) crew →
        n ≤ refs.length ∧
        (n < refs.length → ∃ next, Crew.Step s probe crew next) ∧
        (n = refs.length →
          crew.found.paths = found.paths ∧ crew.found.dropped = found.dropped ∧
            crew.asked.Perm found.probed) := by
  intro found
  obtain ⟨records, hsurvey⟩ := s.survey_eq probe refs
  refine ⟨fun workers => s.survey_workers probe workers refs, (s.survey_paths probe refs).1, fun reason n => ?_, ?_,
    (s.survey_paths probe refs).2, fun n crew hruns => ?_⟩
  · simp only [Dropped.mem_counts, found, s.survey_dropped]
  · rw [Dropped.sum_counts]
    exact s.survey_balance probe refs
  · have hleft := hruns.left_eq
    rw [Crew.left_start] at hleft
    refine ⟨by omega, fun hlt => Crew.exists_step (by omega), fun hdone => ?_⟩
    subst hdone
    have hasked := hruns.asked_perm (by rw [Crew.found_start]; exact .refl _)
    rw [hruns.found_eq] at hasked ⊢
    rw [show found = _ from hsurvey]
    exact ⟨rfl, rfl, hasked⟩

/-- Of three objects one cannot be read and one is not there; the second worker goes first. -/
theorem survey_any_order_two_workers :
    let s : Surveyor := ⟨"s3", true, 2, "paths"⟩
    let probe := fun path => if path = "s3://lake/a b" then Presence.present else .absent
    let refs : List Reference := [⟨"lake", "a+b"⟩, ⟨"lake", "%"⟩, ⟨"lake", "c"⟩]
    ∃ crew, Crew.Runs s probe 3 (Crew.start s refs) crew ∧
      crew.asked = ["s3://lake/c", "s3://lake/a b"] ∧
      crew.found.paths = ["s3://lake/a b"] ∧
      crew.found.dropped.counts = [("decode_failed", 1), ("not_found", 1)] ∧
      crew.asked.Perm ["s3://lake/a b", "s3://lake/c"] := by
  have hstart : Crew.start ⟨"s3", true, 2, "paths"⟩ [⟨"lake", "a+b"⟩, ⟨"lake", "%"⟩, ⟨"lake", "c"⟩] =
      ⟨[⟨[⟨"lake", "a+b"⟩, ⟨"lake", "%"⟩], {}⟩] ++ [⟨[⟨"lake", "c"⟩], {}⟩], []⟩ := rfl
  intro s probe refs
  obtain ⟨-, hpaths, -, -, hprobed, hruns⟩ := survey_any_order s probe refs
  let other : Worker := ⟨[], Survey.append {} (s.inspect probe ⟨"lake", "c"⟩)⟩
  have hrun := Crew.Runs.step
    (Crew.Step.inspect (s := s) [⟨[⟨"lake", "a+b"⟩, ⟨"lake", "%"⟩], {}⟩] [] ⟨"lake", "c"⟩ [] {} [])
      (.step (.inspect [] [other] ⟨"lake", "a+b"⟩ [⟨"lake", "%"⟩] {} _)
        (.step (.inspect [] [other] ⟨"lake", "%"⟩ [] _ _) (.none _)))
  rw [← hstart] at hrun
  obtain ⟨hpathsEq, hdropped, hasked⟩ := (hruns 3 _ hrun).2.2 rfl
  refine ⟨_, hrun, by decide +kernel, ?_, ?_, ?_⟩
  · rw [hpathsEq, hpaths]
    decide +kernel
  · rw [hdropped]
    decide +kernel
  · rw [hprobed] at hasked
    exact hasked.trans (.of_eq (by decide +kernel))

end Surveyor
end ObjectIntake.ObjectPath
