import Mathlib.Algebra.GroupWithZero.Nat
import ObjectIntake.ObjectPath.Survey
import ObjectIntake.Proofs.ObjectPath.Form

/-!
What a survey keeps, drops and probes does not depend on how the references are shared among workers: it goes
reference by reference, in their order.
-/
namespace ObjectIntake.ObjectPath
open Event

theorem flatten_cut {α : Type} {sizes : List Nat} {l : List α} (h : sizes.sum = l.length) :
    (cut sizes l).flatten = l := by
  induction sizes generalizing l with
  | nil =>
    have hnil : l = [] := List.length_eq_zero_iff.mp h.symm
    rw [hnil]
    rfl
  | cons n sizes ih =>
    rw [List.sum_cons] at h
    have hrest : sizes.sum = (l.drop n).length := by
      rw [List.length_drop]
      omega
    rw [cut, List.flatten_cons, ih hrest, List.take_append_drop]

theorem sum_shares (each larger parts : Nat) :
    ((List.range parts).map fun i => each + if i < larger then 1 else 0).sum =
      each * parts + min larger parts := by
  induction parts with
  | zero => simp only [List.range_zero, List.map_nil, List.sum_nil, Nat.mul_zero, Nat.min_zero, Nat.add_zero]
  | succ parts ih =>
    rw [List.range_succ, List.map_append, List.sum_append, ih, List.map_singleton, List.sum_singleton,
      Nat.mul_succ]
    split <;> omega

theorem sum_partSizes {total parts : Nat} (h : 0 < parts) : (partSizes total parts).sum = total := by
  have hlt := Nat.mod_lt total h
  have hdiv := Nat.div_add_mod total parts
  rw [partSizes, sum_shares, Nat.min_eq_left (Nat.le_of_lt hlt), Nat.mul_comm]
  exact hdiv

theorem flatten_parts {α : Type} (workers : Int) {l : List α} (h : l ≠ []) :
    (parts workers l).flatten = l := by
  have hlength := List.length_pos_iff.mpr h
  apply flatten_cut
  apply sum_partSizes
  omega

namespace Survey

theorem append_assoc (a b c : Survey) : (a.append b).append c = a.append (b.append c) := by
  simp [append, Dropped.add, Nat.add_assoc]

theorem empty_append (a : Survey) : ({} : Survey).append a = a := by
  simp [append, Dropped.add]

theorem append_empty (a : Survey) : a.append {} = a := by
  simp [append, Dropped.add]

end Survey

/-- Why a reference is dropped. -/
inductive Loss where
  | undecodable
  | unreachable
  | missing
  deriving DecidableEq

def Loss.name : Loss → String
  | undecodable => "decode_failed"
  | unreachable => "probe_failed"
  | missing => "not_found"

namespace Dropped

def number (d : Dropped) : Loss → Nat
  | .undecodable => d.undecodable
  | .unreachable => d.unreachable
  | .missing => d.missing

theorem number_add (a b : Dropped) (l : Loss) : (a.add b).number l = a.number l + b.number l := by
  cases l <;> rfl

/-- Each reason that is named has its number, and none is named for nothing. -/
theorem mem_counts {d : Dropped} {reason : String} {n : Nat} :
    (reason, n) ∈ d.counts ↔ n ≠ 0 ∧ ∃ l : Loss, l.name = reason ∧ n = d.number l := by
  simp only [counts, List.mem_filter, List.mem_cons, List.not_mem_nil, or_false, Prod.mk.injEq, decide_eq_true_eq]
  constructor
  · rintro ⟨⟨rfl, rfl⟩ | ⟨rfl, rfl⟩ | ⟨rfl, rfl⟩, hn⟩
    · exact ⟨hn, .undecodable, rfl, rfl⟩
    · exact ⟨hn, .unreachable, rfl, rfl⟩
    · exact ⟨hn, .missing, rfl, rfl⟩
  · rintro ⟨hn, l, rfl, rfl⟩
    cases l with
    | undecodable => exact ⟨.inl ⟨rfl, rfl⟩, hn⟩
    | unreachable => exact ⟨.inr (.inl ⟨rfl, rfl⟩), hn⟩
    | missing => exact ⟨.inr (.inr ⟨rfl, rfl⟩), hn⟩

theorem sum_counts (d : Dropped) : (d.counts.map (·.2)).sum = d.total := by
  obtain ⟨undecodable, unreachable, missing⟩ := d
  unfold counts total
  cases undecodable <;> cases unreachable <;> cases missing <;> simp [Nat.add_assoc]

end Dropped

namespace Surveyor

variable (s : Surveyor) (probe : String → Presence)

/-- The path that is kept for a reference: its own, if it can be read and is found where that is checked. -/
def kept (r : Reference) : Option String :=
  match decode (build s.scheme r) with
  | .ok path => if s.checks && probe path ≠ .present then none else some path
  | .error _ => none

/-- The path that is probed for a reference. -/
def asked (r : Reference) : Option String :=
  match decode (build s.scheme r) with
  | .ok path => if s.checks then some path else none
  | .error _ => none

theorem kept_eq_some_iff {r : Reference} {path : String} :
    s.kept probe r = some path ↔ Locates s.scheme r path ∧ (s.checks = true → probe path = .present) := by
  rw [kept, ← decode_build_eq_ok_iff]
  cases decode (build s.scheme r) with
  | error e => simp
  | ok found =>
    cases s.checks with
    | false => simp
    | true =>
      by_cases hprobe : probe found = .present
      · simp only [hprobe, Bool.true_and, ne_eq, not_true_eq_false, decide_false, Bool.false_eq_true, if_false,
          Option.some.injEq, Except.ok.injEq, true_imp_iff]
        refine ⟨?_, And.left⟩
        rintro rfl
        exact ⟨rfl, hprobe⟩
      · simp only [hprobe, Bool.true_and, ne_eq, not_false_eq_true, decide_true, if_true, reduceCtorEq, false_iff,
          Except.ok.injEq, true_imp_iff, not_and]
        rintro rfl
        exact hprobe

theorem asked_eq_some_iff {r : Reference} {path : String} :
    s.asked r = some path ↔ s.checks = true ∧ Locates s.scheme r path := by
  rw [asked, ← decode_build_eq_ok_iff]
  cases decode (build s.scheme r) with
  | error e => simp
  | ok found => cases s.checks <;> simp

theorem inspect_paths (r : Reference) :
    (s.inspect probe r).paths = (s.kept probe r).toList ∧
      (s.inspect probe r).probed = (s.asked r).toList := by
  unfold inspect kept asked
  cases decode (build s.scheme r) with
  | error e => exact ⟨rfl, rfl⟩
  | ok path =>
    cases s.checks with
    | false => exact ⟨rfl, rfl⟩
    | true =>
      dsimp only
      rw [if_pos rfl]
      cases hprobe : probe path with
      | present => exact ⟨rfl, rfl⟩
      | absent => exact ⟨rfl, rfl⟩
      | unreachable reason => exact ⟨rfl, rfl⟩

/-- Why a reference is dropped, if it is. -/
def loss? (r : Reference) : Option Loss :=
  match decode (build s.scheme r) with
  | .error _ => some .undecodable
  | .ok path =>
      if s.checks then
        match probe path with
        | .present => none
        | .absent => some .missing
        | .unreachable _ => some .unreachable
      else none

theorem inspect_dropped (r : Reference) (l : Loss) :
    (s.inspect probe r).dropped.number l = (s.loss? probe r).toList.count l := by
  unfold inspect loss?
  cases decode (build s.scheme r) with
  | error e => cases l <;> rfl
  | ok path =>
    cases s.checks with
    | false => cases l <;> rfl
    | true =>
      dsimp only
      rw [if_pos rfl, if_pos rfl]
      cases probe path with
      | present => cases l <;> rfl
      | absent => cases l <;> rfl
      | unreachable reason => cases l <;> rfl

/-- A reference is either kept or dropped. -/
theorem kept_eq_none_iff (r : Reference) : s.kept probe r = none ↔ (s.loss? probe r).isSome = true := by
  unfold kept loss?
  cases decode (build s.scheme r) with
  | error e => simp
  | ok path =>
    cases s.checks with
    | false => simp
    | true => cases hprobe : probe path <;> simp [hprobe]

theorem length_kept_add_length_lost (refs : List Reference) :
    (refs.filterMap (s.kept probe)).length + (refs.filterMap (s.loss? probe)).length = refs.length := by
  induction refs with
  | nil => rfl
  | cons r rest ih =>
    have hone := s.kept_eq_none_iff probe r
    cases hkept : s.kept probe r with
    | none =>
      obtain ⟨l, hl⟩ := Option.isSome_iff_exists.mp (hone.mp hkept)
      rw [List.filterMap_cons_none hkept, List.filterMap_cons_some hl, List.length_cons, List.length_cons]
      omega
    | some path =>
      have hnone : s.loss? probe r = none := by
        rw [← Option.not_isSome_iff_eq_none, ← hone, hkept]
        exact Option.some_ne_none path
      rw [List.filterMap_cons_some hkept, List.filterMap_cons_none hnone, List.length_cons, List.length_cons]
      omega

theorem inspectAll_cons (r : Reference) (rest : List Reference) :
    s.inspectAll probe (r :: rest) = (s.inspect probe r).append (s.inspectAll probe rest) := rfl

theorem inspectAll_append (refs others : List Reference) :
    s.inspectAll probe (refs ++ others) = (s.inspectAll probe refs).append (s.inspectAll probe others) := by
  induction refs with
  | nil => exact (Survey.empty_append _).symm
  | cons r rest ih => rw [List.cons_append, inspectAll_cons, inspectAll_cons, ih, Survey.append_assoc]

theorem inspectAll_paths (refs : List Reference) :
    (s.inspectAll probe refs).paths = refs.filterMap (s.kept probe) ∧
      (s.inspectAll probe refs).probed = refs.filterMap s.asked := by
  induction refs with
  | nil => exact ⟨rfl, rfl⟩
  | cons r rest ih =>
    obtain ⟨hpaths, hprobed⟩ := s.inspect_paths probe r
    rw [inspectAll_cons, Survey.append, hpaths, hprobed, ih.1, ih.2]
    constructor
    · cases hkept : s.kept probe r with
      | none => rw [List.filterMap_cons_none hkept]; rfl
      | some path => rw [List.filterMap_cons_some hkept]; rfl
    · cases hasked : s.asked r with
      | none => rw [List.filterMap_cons_none hasked]; rfl
      | some path => rw [List.filterMap_cons_some hasked]; rfl

theorem inspectAll_dropped (refs : List Reference) (l : Loss) :
    (s.inspectAll probe refs).dropped.number l = (refs.filterMap (s.loss? probe)).count l := by
  induction refs with
  | nil => cases l <;> rfl
  | cons r rest ih =>
    rw [inspectAll_cons, Survey.append, Dropped.number_add, ih, inspect_dropped]
    cases hlost : s.loss? probe r with
    | none => rw [List.filterMap_cons_none hlost, Option.toList_none, List.count_nil, Nat.zero_add]
    | some lost =>
      rw [List.filterMap_cons_some hlost, Option.toList_some, ← List.count_append]
      rfl

/-- What is found in pieces of the references, put together. -/
theorem foldr_append_inspectAll (pieces : List (List Reference)) :
    (pieces.map (s.inspectAll probe)).foldr Survey.append {} = s.inspectAll probe pieces.flatten := by
  induction pieces with
  | nil => rfl
  | cons piece rest ih => rw [List.map_cons, List.foldr_cons, ih, List.flatten_cons, inspectAll_append]

theorem flatten_parts_workers (refs : List Reference) : (parts s.workers refs).flatten = refs := by
  by_cases h : refs = []
  · rw [h, parts, List.length_nil, Nat.min_zero]
    rfl
  · exact flatten_parts s.workers h

/-- The survey is what is found by inspecting all references in their order, whoever inspects them, and a record of it
at the end. -/
theorem survey_eq (refs : List Reference) :
    ∃ records, s.survey probe refs =
      { s.inspectAll probe refs with records := (s.inspectAll probe refs).records ++ records } := by
  unfold survey
  split
  next hempty =>
    rw [List.isEmpty_iff.mp hempty]
    exact ⟨[], rfl⟩
  next =>
    dsimp only
    rw [foldr_append_inspectAll, flatten_parts_workers]
    exact ⟨_, rfl⟩

theorem survey_workers (workers : Int) (refs : List Reference) :
    { s with workers := workers }.survey probe refs = s.survey probe refs := by
  unfold survey
  rw [foldr_append_inspectAll, foldr_append_inspectAll, flatten_parts_workers, flatten_parts_workers]
  rfl

theorem survey_paths (refs : List Reference) :
    (s.survey probe refs).paths = refs.filterMap (s.kept probe) ∧
      (s.survey probe refs).probed = refs.filterMap s.asked := by
  obtain ⟨records, hsurvey⟩ := s.survey_eq probe refs
  rw [hsurvey]
  exact s.inspectAll_paths probe refs

theorem survey_dropped (refs : List Reference) (l : Loss) :
    (s.survey probe refs).dropped.number l = (refs.filterMap (s.loss? probe)).count l := by
  obtain ⟨records, hsurvey⟩ := s.survey_eq probe refs
  rw [hsurvey]
  exact s.inspectAll_dropped probe refs l

theorem total_eq_length (losses : List Loss) {d : Dropped} (h : ∀ l, d.number l = losses.count l) :
    d.total = losses.length := by
  have hsum : losses.count .undecodable + losses.count .unreachable + losses.count .missing = losses.length := by
    clear h
    induction losses with
    | nil => rfl
    | cons l rest ih => cases l <;> simp <;> omega
  rw [Dropped.total, ← hsum, ← h, ← h, ← h]
  rfl

/-- Every reference is kept or dropped, and none is both. -/
theorem survey_balance (refs : List Reference) :
    (s.survey probe refs).paths.length + (s.survey probe refs).dropped.total = refs.length := by
  rw [(s.survey_paths probe refs).1, total_eq_length _ (s.survey_dropped probe refs), length_kept_add_length_lost]

end Surveyor
end ObjectIntake.ObjectPath
