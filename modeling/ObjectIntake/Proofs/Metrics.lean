import Mathlib.Data.List.Basic
import ObjectIntake.Metrics

/-!
What a recording changes in the registry, and when it is not accepted: counts add up label by label, and a
whole number that no double holds is refused.
-/
namespace ObjectIntake

/-- The number is beyond all doubles. -/
def Figure.Overflows (n : Int) : Prop := (Figure.whole n).round? = none

theorem Figure.not_overflows_of_natAbs_lt {n : Int} (h : n.natAbs < Numeral.twoTo 53) : ¬ Figure.Overflows n := by
  simp [Figure.Overflows, Figure.round?_whole_of_natAbs_lt h]

namespace Registry

/-- Among the fetches that are counted by outcome, one more has this outcome. -/
structure CountsOne (before after : Registry) (outcome : String) : Prop where
  own : ∀ n : Int, (before.batches.get? outcome).getD (.whole 0) = .whole n →
    (n + 1).natAbs < Numeral.twoTo 53 → after.batches.get? outcome = some (.whole (n + 1))
  others : ∀ label, label ≠ outcome → after.batches.get? label = before.batches.get? label

theorem increase_one (count : Figure) : increase count (.whole 1) = .ok (count.add (.whole 1)) := by
  have hround : (Figure.whole 1).round? = some (.whole 1) := Figure.round?_whole_of_natAbs_lt (by decide)
  have hsign : (Figure.whole 1).isNegative = false := by decide
  simp [increase, hsign, hround]

theorem countBatch_countsOne (r : Registry) (outcome : String) : r.CountsOne (r.countBatch outcome) outcome where
  own n hn hbound := by
    have hadd := Figure.add_whole_of_natAbs_lt hbound
    simp [countBatch, increaseAt, increase_one, Keyed.get?_put, hn, hadd]
  others label hlabel := by
    simp [countBatch, increaseAt, increase_one, Keyed.get?_put, hlabel]

/-- Only the fetches that are counted matter. -/
theorem CountsOne.congr {before after r s : Registry} {outcome : String} (h : r.CountsOne s outcome)
    (hbefore : before.batches = r.batches) (hafter : after.batches = s.batches) : before.CountsOne after outcome := by
  constructor
  · rw [hbefore, hafter]
    exact h.own
  · rw [hbefore, hafter]
    exact h.others

theorem increase_whole (count : Figure) (n : Nat) :
    (Figure.Overflows n ∧ increase count (.whole n) = .error .tooLarge) ∨
      (¬ Figure.Overflows n ∧ ∃ total, increase count (.whole n) = .ok total) := by
  have hsign : (Figure.whole n).isNegative = false := by simp [Figure.isNegative]
  unfold increase Figure.Overflows
  rw [hsign]
  cases hround : (Figure.whole n).round? with
  | none => simp
  | some m => simp

/-- Recording these whole numbers leaves the fetches as they are counted, and is refused with one that no double
holds. -/
structure Accounts (f : Registry → Registry × Except Failure Unit) (figures : List Int) : Prop where
  batches : ∀ r, (f r).1.batches = r.batches
  refused : (∃ n ∈ figures, Figure.Overflows n) → ∀ r, (f r).2 = .error .tooLarge
  accepted : (¬ ∃ n ∈ figures, Figure.Overflows n) → ∀ r, (f r).2 = .ok ()

/-- Two recordings, the second only if the first is accepted. -/
def both (f g : Registry → Registry × Except Failure Unit) (r : Registry) : Registry × Except Failure Unit :=
  match f r with
  | (r, .ok _) => g r
  | (r, .error e) => (r, .error e)

theorem both_of_ok {f g : Registry → Registry × Except Failure Unit} {r : Registry} (h : (f r).2 = .ok ()) :
    both f g r = g (f r).1 := by
  unfold both
  cases hf : f r with
  | mk s result =>
    rw [hf] at h
    cases h
    rfl

theorem both_of_error {f g : Registry → Registry × Except Failure Unit} {r : Registry} {e : Failure}
    (h : (f r).2 = .error e) : both f g r = ((f r).1, .error e) := by
  unfold both
  cases hf : f r with
  | mk s result =>
    rw [hf] at h
    cases h
    rfl

theorem Accounts.both {f g : Registry → Registry × Except Failure Unit} {ms ns : List Int}
    (hf : Accounts f ms) (hg : Accounts g ns) : Accounts (Registry.both f g) (ms ++ ns) := by
  by_cases hfirst : ∃ n ∈ ms, Figure.Overflows n
  · have herror := hf.refused hfirst
    constructor
    · intro r
      rw [both_of_error (herror r)]
      exact hf.batches r
    · intro _ r
      rw [both_of_error (herror r)]
    · intro hnone
      obtain ⟨n, hn, hover⟩ := hfirst
      exact absurd ⟨n, List.mem_append_left _ hn, hover⟩ hnone
  · have hok := hf.accepted hfirst
    constructor
    · intro r
      rw [both_of_ok (hok r), hg.batches, hf.batches]
    · rintro ⟨n, hn, hover⟩ r
      rw [both_of_ok (hok r)]
      refine hg.refused ⟨n, ?_, hover⟩ _
      rcases List.mem_append.mp hn with hn | hn
      · exact absurd ⟨n, hn, hover⟩ hfirst
      · exact hn
    · intro hnone r
      rw [both_of_ok (hok r)]
      refine hg.accepted ?_ _
      rintro ⟨n, hn, hover⟩
      exact hnone ⟨n, List.mem_append_right _ hn, hover⟩

theorem accounts_nil : Accounts (fun r => (r, .ok ())) [] where
  batches _ := rfl
  refused h := by simp at h
  accepted _ _ := rfl

theorem accounts_recordVersion (basePath : String) (n : Int) :
    Accounts (fun r => r.recordVersion basePath (.whole n)) [n] := by
  unfold recordVersion
  constructor
  · intro r
    split
    next => rfl
    next => rfl
  · intro h r
    have hover : (Figure.whole n).round? = none := by simpa [Figure.Overflows] using h
    rw [hover]
  · intro h r
    have hfits : (Figure.whole n).round? ≠ none := by simpa [Figure.Overflows] using h
    cases hround : (Figure.whole n).round? with
    | none => exact absurd hround hfits
    | some m => rfl

/-- A count that takes an amount, if it is one of whole things. -/
theorem accounts_increase {f : Registry → Registry × Except Failure Unit} {n : Nat} (count : Registry → Figure)
    (hbatches : ∀ r, (f r).1.batches = r.batches)
    (hf : ∀ r, (f r).2 = (increase (count r) (.whole n)).map fun _ => ()) : Accounts f [(n : Int)] where
  batches := hbatches
  refused h r := by
    have hover : Figure.Overflows n := by simpa using h
    rcases increase_whole (count r) n with ⟨-, herror⟩ | ⟨hfits, -⟩
    · rw [hf, herror]
      rfl
    · exact absurd hover hfits
  accepted h r := by
    have hfits : ¬ Figure.Overflows n := by simpa using h
    rcases increase_whole (count r) n with ⟨hover, -⟩ | ⟨-, total, htotal⟩
    · exact absurd hover hfits
    · rw [hf, htotal]
      rfl

theorem recordFiles_eq_both (extracted loaded : Figure) :
    (fun r => r.recordFiles extracted loaded) =
      Registry.both (fun r => r.countExtracted extracted) fun r => r.countLoaded loaded := by
  funext r
  cases h : r.countExtracted extracted with
  | mk s result =>
    cases result with
    | ok _ => simp [recordFiles, Registry.both, h]
    | error e => simp [recordFiles, Registry.both, h]

theorem accounts_recordFiles (extracted loaded : Nat) :
    Accounts (fun r => r.recordFiles (.whole extracted) (.whole loaded)) [(extracted : Int), (loaded : Int)] := by
  have hextracted : Accounts (fun r => r.countExtracted (.whole extracted)) [(extracted : Int)] := by
    apply accounts_increase Registry.extracted
    · intro r
      unfold countExtracted
      split <;> rfl
    · intro r
      unfold countExtracted
      split <;> simp [*, Except.map]
  have hloaded : Accounts (fun r => r.countLoaded (.whole loaded)) [(loaded : Int)] := by
    apply accounts_increase Registry.loaded
    · intro r
      unfold countLoaded
      split <;> rfl
    · intro r
      unfold countLoaded
      split <;> simp [*, Except.map]
  rw [recordFiles_eq_both]
  exact hextracted.both hloaded

/-- One more drop for a reason. -/
def countDropped (reason : String) (n : Figure) (r : Registry) : Registry × Except Failure Unit :=
  ({ r with dropped := (increaseAt r.dropped reason n).1 }, (increaseAt r.dropped reason n).2)

theorem recordDropped_cons (reason : String) {n : Nat} (hn : n ≠ 0) (rest : List (String × Figure)) :
    (fun r => recordDropped r ((reason, .whole n) :: rest)) =
      Registry.both (countDropped reason (.whole n)) fun r => r.recordDropped rest := by
  funext r
  have hnat : (n : Int) ≠ 0 := by omega
  rw [recordDropped]
  · unfold Registry.both countDropped
    cases increaseAt r.dropped reason (.whole n) with
    | mk dropped result => cases result <;> rfl
  · intro h
    injection h with hzero
    exact hnat hzero

theorem accounts_countDropped (reason : String) (n : Nat) :
    Accounts (countDropped reason (.whole n)) [(n : Int)] := by
  apply accounts_increase fun r => (r.dropped.get? reason).getD (.whole 0)
  · intro r
    simp only [countDropped]
  · intro r
    unfold countDropped increaseAt
    dsimp only
    cases increase ((r.dropped.get? reason).getD (.whole 0)) (.whole n) <;> rfl

theorem accounts_recordDropped (counts : List (String × Nat)) (h : ∀ c ∈ counts, c.2 ≠ 0) :
    Accounts (fun r => r.recordDropped (counts.map fun (reason, n) => (reason, .whole n)))
      (counts.map fun c => (c.2 : Int)) := by
  induction counts with
  | nil => exact accounts_nil
  | cons c rest ih =>
    obtain ⟨reason, n⟩ := c
    have hrest := ih fun c hc => h c (List.mem_cons_of_mem _ hc)
    have hn : n ≠ 0 := h (reason, n) (List.mem_cons_self ..)
    rw [List.map_cons, List.map_cons, recordDropped_cons reason hn]
    exact (accounts_countDropped reason n).both hrest

end Registry
end ObjectIntake
