import Mathlib.Algebra.GroupWithZero.Nat
import ObjectIntake.Proofs.Metrics

/-!
The figures of a registry as exact numbers. As long as these stay below 2 ^ 53 the registry shows them, for every
recording changes both in the same way.
-/
namespace ObjectIntake
open Numeral

namespace Keyed

variable {α β : Type}

/-- Other values under the same keys. -/
def mapValues (f : α → β) (m : Keyed α) : Keyed β := m.map fun e => (e.1, f e.2)

theorem get?_mapValues (f : α → β) (m : Keyed α) (key : String) :
    (m.mapValues f).get? key = (m.get? key).map f := by
  induction m with
  | nil => rfl
  | cons e rest ih =>
    obtain ⟨k, value⟩ := e
    simp only [get?, mapValues, List.map_cons, List.lookup_cons] at ih ⊢
    cases key == k with
    | true => rfl
    | false => exact ih

theorem put_mapValues (f : α → β) (m : Keyed α) (key : String) (value : α) :
    (m.mapValues f).put key (f value) = (m.put key value).mapValues f := by
  induction m with
  | nil => rfl
  | cons e rest ih =>
    obtain ⟨k, old⟩ := e
    simp only [mapValues, List.map_cons, put] at ih ⊢
    split
    next => rfl
    next => rw [ih, List.map_cons]

/-- The count under a key. -/
def count (m : Keyed Nat) (key : String) : Nat := (m.get? key).getD 0

/-- The sum of all counts. -/
def total (m : Keyed Nat) : Nat := (m.map (·.2)).sum

def raise (m : Keyed Nat) (key : String) (n : Nat) : Keyed Nat := m.put key (m.count key + n)

theorem count_raise (m : Keyed Nat) (key : String) (n : Nat) (k : String) :
    (m.raise key n).count k = m.count k + if k = key then n else 0 := by
  unfold raise
  rw [count, get?_put]
  split
  next h => rw [h, Option.getD_some]
  next => rfl

theorem total_raise (m : Keyed Nat) (key : String) (n : Nat) : (m.raise key n).total = m.total + n := by
  induction m with
  | nil => simp [raise, put, count, get?, total]
  | cons e rest ih =>
    obtain ⟨k, old⟩ := e
    simp only [raise, total] at ih ⊢
    by_cases h : k = key
    · subst h
      simp only [put, if_true, count, get?, List.lookup_cons_self, Option.getD_some, List.map_cons, List.sum_cons]
      omega
    · have hcount : Keyed.count ((k, old) :: rest) key = Keyed.count rest key := by
        simp [count, get?, List.lookup_cons, beq_eq_false_iff_ne.2 (Ne.symm h)]
      rw [hcount, put, if_neg h, List.map_cons, List.map_cons, List.sum_cons, List.sum_cons, ih, Nat.add_assoc]

theorem count_le_total (m : Keyed Nat) (key : String) : m.count key ≤ m.total := by
  induction m with
  | nil => exact Nat.le_refl 0
  | cons e rest ih =>
    obtain ⟨k, n⟩ := e
    simp only [count, get?, total, List.lookup_cons, List.map_cons, List.sum_cons] at ih ⊢
    cases key == k with
    | true => exact Nat.le_add_right n _
    | false => exact Nat.le_trans ih (Nat.le_add_left _ n)

end Keyed

namespace Histogram

theorem count_eq_sum (h : Histogram) : h.count = h.counts.sum := by
  rw [count, List.sum_eq_foldl]

theorem length_tally (x : Float) (bounds : List (Float × String)) (counts : List Nat) :
    (tally x bounds counts).length = counts.length := by
  induction bounds generalizing counts with
  | nil => rfl
  | cons bound bounds ih =>
    cases counts with
    | nil => rfl
    | cons n counts =>
      rw [tally]
      split
      next => rfl
      next => rw [List.length_cons, ih, List.length_cons]

/-- What some bound is not exceeded by is counted once. -/
theorem sum_tally {x : Float} {bounds : List (Float × String)} {counts : List Nat}
    (hlength : counts.length = bounds.length) (hbound : ∃ b ∈ bounds, x ≤ b.1) :
    (tally x bounds counts).sum = counts.sum + 1 := by
  induction bounds generalizing counts with
  | nil =>
    obtain ⟨b, hb, -⟩ := hbound
    cases hb
  | cons bound bounds ih =>
    obtain ⟨n, counts, rfl⟩ := List.exists_cons_of_length_eq_add_one hlength
    rw [tally]
    split
    next =>
      rw [List.sum_cons, List.sum_cons]
      omega
    next hnot =>
      have hlater : ∃ b ∈ bounds, x ≤ b.1 := by
        obtain ⟨b, hb, hle⟩ := hbound
        rcases List.mem_cons.mp hb with rfl | hb
        · exact absurd hle hnot
        · exact ⟨b, hb, hle⟩
      rw [List.sum_cons, List.sum_cons, ih (Nat.succ.inj hlength) hlater, Nat.add_assoc]

open Float.Model in
/-- The last bound is exceeded by nothing that can be compared. -/
theorem le_last {x : Float} (h : x.isNaN = false) : x ≤ 1.0 / 0.0 := by
  have hbits : (1.0 / 0.0 : Float).toModel.toBits = 0x7FF0000000000000 := by decide +kernel
  have hlast : (1.0 / 0.0 : Float).toModel.unpack = .infinity .positive := by
    rw [unpack, hbits]
    rfl
  have hle : x.toModel.unpack.le (1.0 / 0.0 : Float).toModel.unpack = true := by
    rw [hlast]
    have hnumber : x.toModel.unpack.isNaN = false := h
    cases hx : x.toModel.unpack with
    | notANumber =>
      rw [hx] at hnumber
      cases hnumber
    | infinity sign => cases sign <;> rfl
    | zero sign => rfl
    | finite sign mantissa exponent hmantissa => rfl
  exact decide_eq_true hle

/-- Every observation of a number is counted. -/
theorem count_observe {h : Histogram} {x : Float} (hlength : h.counts.length = bounds.length)
    (hx : x.isNaN = false) : (h.observe x).count = h.count + 1 := by
  have hlast : ∃ b ∈ bounds, x ≤ b.1 := ⟨(1.0 / 0.0, "+Inf"), List.mem_of_getLast? rfl, le_last hx⟩
  rw [count_eq_sum, count_eq_sum, observe]
  exact sum_tally hlength hlast

end Histogram

/-- Counts as a registry holds them. -/
def Keyed.figures (m : Keyed Nat) : Keyed Figure := m.mapValues fun n => .whole (n : Nat)

/-- The figures of a registry, exactly. -/
structure Ledger where
  batches : Keyed Nat := []
  observed : Nat := 0
  reached : Keyed Int := []
  extracted : Nat := 0
  loaded : Nat := 0
  dropped : Keyed Nat := []

namespace Ledger

def countBatch (books : Ledger) (outcome : String) : Ledger :=
  { books with batches := books.batches.raise outcome 1, observed := books.observed + 1 }

def reach (books : Ledger) (basePath : String) (version : Int) : Ledger :=
  { books with reached := books.reached.put basePath version }

def countFiles (books : Ledger) (extracted loaded : Nat) : Ledger :=
  { books with extracted := books.extracted + extracted, loaded := books.loaded + loaded }

def drop (books : Ledger) (counts : List (String × Nat)) : Ledger :=
  { books with dropped := counts.foldl (fun m c => m.raise c.1 c.2) books.dropped }

theorem total_drop (books : Ledger) (counts : List (String × Nat)) :
    (books.drop counts).dropped.total = books.dropped.total + (counts.map (·.2)).sum := by
  unfold drop
  induction counts generalizing books with
  | nil => rfl
  | cons c rest ih =>
    have hrest := ih { books with dropped := books.dropped.raise c.1 c.2 }
    dsimp only at hrest ⊢
    rw [List.foldl_cons, hrest, Keyed.total_raise, List.map_cons, List.sum_cons, Nat.add_assoc]

end Ledger

namespace Registry

/-- The registry shows the ledger. -/
structure Shows (r : Registry) (books : Ledger) : Prop where
  batches : r.batches = books.batches.figures
  bounds : r.durations.counts.length = Histogram.bounds.length
  observed : r.durations.count = books.observed
  reached : r.reached = books.reached.mapValues .whole
  extracted : r.extracted = .whole books.extracted
  loaded : r.loaded = .whole books.loaded
  dropped : r.dropped = books.dropped.figures

theorem empty_shows : empty.Shows {} := ⟨rfl, rfl, rfl, rfl, rfl, rfl, rfl⟩

theorem increase_exact {m n : Nat} (h : m + n < twoTo 53) :
    increase (.whole m) (.whole n) = .ok (.whole (m + n : Nat)) := by
  have hsign : (Figure.whole n).isNegative = false := by simp [Figure.isNegative]
  have hround : (Figure.whole n).round? = some (.whole n) :=
    Figure.round?_whole_of_natAbs_lt (by rw [Int.natAbs_natCast]; omega)
  have hsum : ((m : Int) + n).natAbs < twoTo 53 := by omega
  rw [increase, hsign, hround, Int.natCast_add, ← Figure.add_whole_of_natAbs_lt hsum]
  rfl

theorem increaseAt_exact (counts : Keyed Nat) (label : String) {n : Nat} (h : counts.total + n < twoTo 53) :
    increaseAt counts.figures label (.whole n) = ((counts.raise label n).figures, .ok ()) := by
  have hcount : (counts.figures.get? label).getD (.whole 0) = .whole (counts.count label) := by
    rw [Keyed.figures, Keyed.get?_mapValues, Keyed.count]
    cases counts.get? label <;> rfl
  have hle := counts.count_le_total label
  unfold increaseAt
  dsimp only
  rw [hcount, increase_exact (by omega)]
  dsimp only
  rw [Keyed.figures, Keyed.put_mapValues fun n : Nat => Figure.whole n]
  rfl

namespace Shows

variable {r : Registry} {books : Ledger} (h : r.Shows books)
include h

theorem recordBatch (outcome : String) {seconds : Float} (hseconds : seconds.isNaN = false)
    (hfits : books.batches.total + 1 < twoTo 53) :
    (r.recordBatch outcome seconds).Shows (books.countBatch outcome) := by
  have hone := increaseAt_exact books.batches outcome hfits
  rw [← h.batches, Int.natCast_one] at hone
  have hcount := Histogram.count_observe h.bounds hseconds
  rw [h.observed] at hcount
  have hlength : (r.durations.observe seconds).counts.length = Histogram.bounds.length :=
    (Histogram.length_tally ..).trans h.bounds
  rw [Registry.recordBatch, countBatch, hone]
  exact { h with batches := rfl, bounds := hlength, observed := hcount }

theorem recordVersion (basePath : String) {version : Int} (hfits : version.natAbs < twoTo 53) :
    (r.recordVersion basePath (.whole version)).2 = .ok () ∧
      (r.recordVersion basePath (.whole version)).1.Shows (books.reach basePath version) := by
  unfold Registry.recordVersion
  rw [Figure.round?_whole_of_natAbs_lt hfits]
  have hreached : r.reached.put basePath (.whole version) = (books.reached.put basePath version).mapValues .whole := by
    rw [h.reached, Keyed.put_mapValues]
  exact ⟨rfl, { h with reached := hreached }⟩

theorem recordFiles {extracted loaded : Nat} (hextracted : books.extracted + extracted < twoTo 53)
    (hloaded : books.loaded + loaded < twoTo 53) :
    (r.recordFiles (.whole extracted) (.whole loaded)).2 = .ok () ∧
      (r.recordFiles (.whole extracted) (.whole loaded)).1.Shows (books.countFiles extracted loaded) := by
  unfold Registry.recordFiles countExtracted
  rw [h.extracted, increase_exact hextracted]
  dsimp only
  unfold countLoaded
  dsimp only
  rw [h.loaded, increase_exact hloaded]
  exact ⟨rfl, { h with extracted := rfl, loaded := rfl }⟩

theorem recordDropped {counts : List (String × Nat)} (hcounts : ∀ c ∈ counts, c.2 ≠ 0)
    (hfits : books.dropped.total + (counts.map (·.2)).sum < twoTo 53) :
    (r.recordDropped (counts.map fun (reason, n) => (reason, .whole n))).2 = .ok () ∧
      (r.recordDropped (counts.map fun (reason, n) => (reason, .whole n))).1.Shows (books.drop counts) := by
  induction counts generalizing r books with
  | nil => exact ⟨rfl, h⟩
  | cons c rest ih =>
    obtain ⟨reason, n⟩ := c
    rw [List.map_cons, List.sum_cons] at hfits
    have hone : countDropped reason (.whole n) r =
        ({ r with dropped := (books.dropped.raise reason n).figures }, .ok ()) := by
      rw [countDropped, h.dropped, increaseAt_exact _ _ (by omega)]
    have hnext : Shows { r with dropped := (books.dropped.raise reason n).figures }
        { books with dropped := books.dropped.raise reason n } := { h with dropped := rfl }
    have hrest : (books.dropped.raise reason n).total + (rest.map (·.2)).sum < twoTo 53 := by
      rw [Keyed.total_raise]
      omega
    have hboth := congrFun (recordDropped_cons reason (hcounts _ (List.mem_cons_self ..))
      (rest.map fun (reason, n) => (reason, Figure.whole n))) r
    rw [both_of_ok (congrArg Prod.snd hone), hone] at hboth
    rw [List.map_cons, hboth]
    exact ih hnext (fun c hc => hcounts c (List.mem_cons_of_mem _ hc)) hrest

end Shows
end Registry
end ObjectIntake
