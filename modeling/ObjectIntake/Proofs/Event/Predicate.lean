import Mathlib.Data.List.Basic
import ObjectIntake.Event.Predicate
import ObjectIntake.Proofs.Work

/-!
What a predicate says of a row, in terms of the literal texts. On rows whose size is an integer or null the
test always has an answer, and it is this one.
-/
namespace ObjectIntake.Event

/-- The size is an integer, or there is none. -/
def Row.Sized (r : Row) : Prop := r.size = .null ∨ ∃ n, r.size = .whole n

namespace Predicate

/-- The key passes the filters. A filter that is absent or empty says nothing. -/
structure PassesKey (p : Predicate) (key : String) : Prop where
  start : ∀ s, p.keyStart = some s → s ≠ "" → s.toList <+: key.toList
  otherStart : ∀ s, p.ignoredKeyStart = some s → s ≠ "" → ¬ s.toList <+: key.toList
  noPart : ∀ s, p.ignoredKeyPart = some s → s ≠ "" → ¬ s.toList <:+: key.toList
  ending : p.extensions ≠ [] → ∃ e ∈ p.extensions, e.toList <:+ key.toList

/-- The row has a bucket, a key that passes the filters, and a positive size. -/
def Passes (p : Predicate) (r : Row) : Prop :=
  (∃ bucket, r.bucket = some bucket) ∧ (∃ key, r.key = some key ∧ p.PassesKey key) ∧
    ∃ n, r.size = .whole n ∧ 0 < n

theorem active_eq_some {o : Option String} {s : String} : active o = some s ↔ o = some s ∧ s ≠ "" := by
  cases o with
  | none => simp only [active, reduceCtorEq, false_and]
  | some t =>
    simp only [active]
    split
    next ht =>
      subst ht
      simp only [reduceCtorEq, Option.some.injEq, false_iff, not_and, Decidable.not_not]
      exact Eq.symm
    next ht =>
      simp only [Option.some.injEq]
      exact ⟨fun h => ⟨h, h ▸ ht⟩, And.left⟩

theorem all_active {o : Option String} {test : String → Bool} :
    (active o).all test = true ↔ ∀ s, o = some s → s ≠ "" → test s = true := by
  rw [Option.all_eq_true]
  constructor
  · intro h s hs hne
    exact h s (active_eq_some.mpr ⟨hs, hne⟩)
  · intro h s hs
    obtain ⟨hs, hne⟩ := active_eq_some.mp hs
    exact h s hs hne

theorem startsWith_iff {key s : String} : Text.startsWith key s = true ↔ s.toList <+: key.toList :=
  List.isPrefixOf_iff_prefix

theorem endsWith_iff {key s : String} : Text.endsWith key s = true ↔ s.toList <:+ key.toList :=
  List.isSuffixOf_iff_suffix

theorem contains_iff {key s : String} : Text.contains key s = true ↔ s.toList <:+: key.toList :=
  Text.isInfix_iff

theorem not_test {b : Bool} {q : Prop} (h : b = true ↔ q) : (!b) = true ↔ ¬ q := by
  rw [Bool.not_eq_true', ← h, Bool.not_eq_true]

theorem acceptsEnd_iff {p : Predicate} {key : String} :
    p.acceptsEnd key = true ↔ (p.extensions ≠ [] → ∃ e ∈ p.extensions, e.toList <:+ key.toList) := by
  rw [acceptsEnd, Bool.or_eq_true, List.isEmpty_iff, List.any_eq_true]
  simp only [endsWith_iff]
  exact Decidable.or_iff_not_imp_left

theorem acceptsKey_iff {p : Predicate} {key : String} : p.acceptsKey key = true ↔ p.PassesKey key := by
  simp only [acceptsKey, acceptsStart, avoidsStart, avoidsPart, Bool.and_eq_true, all_active,
    acceptsEnd_iff, startsWith_iff, not_test startsWith_iff, not_test contains_iff]
  constructor
  · rintro ⟨⟨⟨hstart, hother⟩, hpart⟩, hend⟩
    exact ⟨hstart, hother, hpart, hend⟩
  · rintro ⟨hstart, hother, hpart, hend⟩
    exact ⟨⟨⟨hstart, hother⟩, hpart⟩, hend⟩

/-- The test of a row has an answer, which is yes on the rows that pass and on no others. -/
theorem accepts_of_sized (p : Predicate) {r : Row} (h : r.Sized) :
    ∃ b, p.accepts r = .ok b ∧ (b = true ↔ p.Passes r) := by
  unfold accepts Passes
  cases hb : r.bucket with
  | none => exact ⟨false, rfl, by simp only [Bool.false_eq_true, reduceCtorEq, exists_false, false_and]⟩
  | some bucket =>
    cases hk : r.key with
    | none =>
      exact ⟨false, rfl, by
        simp only [Bool.false_eq_true, reduceCtorEq, false_and, exists_false, and_false]⟩
    | some key =>
      rcases h with hs | ⟨n, hs⟩
      · refine ⟨false, by rw [hs]; rfl, ?_⟩
        simp only [hs, Bool.false_eq_true, reduceCtorEq, false_and, exists_false, and_false]
      · by_cases hn : n ≤ 0
        · refine ⟨false, by rw [hs]; simp only [Cell.exhausted, decide_eq_true hn]; rfl, ?_⟩
          simp only [hs, Bool.false_eq_true, Cell.whole.injEq, exists_eq_left', false_iff, not_and]
          intro _ _ hpos
          omega
        · refine ⟨p.acceptsKey key, by rw [hs]; simp only [Cell.exhausted, decide_eq_false hn]; rfl, ?_⟩
          simp only [hs, Option.some.injEq, exists_eq', true_and, exists_eq_left', Cell.whole.injEq,
            acceptsKey_iff]
          exact ⟨fun hp => ⟨hp, by omega⟩, And.left⟩

theorem passesKey_of_accepts {p : Predicate} {r : Row} (h : p.accepts r = .ok true) :
    ∃ key, r.key = some key ∧ p.PassesKey key := by
  unfold accepts at h
  split at h
  next key _ hkey =>
    obtain ⟨exhausted, -, h⟩ := Work.bind_eq_ok.mp h
    split at h
    next => cases h
    next => exact ⟨key, hkey, acceptsKey_iff.mp (Except.ok.inj h)⟩
  next => cases h

/-- The predicate without its filter of endings. -/
def anyEnding (p : Predicate) : Predicate := { p with extensions := [] }

theorem passes_iff_anyEnding {p : Predicate} {r : Row} {key : String} (hkey : r.key = some key) :
    p.Passes r ↔ p.anyEnding.Passes r ∧ (p.extensions ≠ [] → ∃ e ∈ p.extensions, e.toList <:+ key.toList) := by
  have hsplit : p.PassesKey key ↔
      p.anyEnding.PassesKey key ∧ (p.extensions ≠ [] → ∃ e ∈ p.extensions, e.toList <:+ key.toList) :=
    ⟨fun h => ⟨⟨h.start, h.otherStart, h.noPart, fun hne => absurd rfl hne⟩, h.ending⟩,
      fun ⟨h, hending⟩ => ⟨h.start, h.otherStart, h.noPart, hending⟩⟩
  simp only [Passes, hkey, Option.some.injEq, exists_eq_left', hsplit]
  constructor
  · rintro ⟨hbucket, ⟨hothers, hending⟩, hsize⟩
    exact ⟨⟨hbucket, hothers, hsize⟩, hending⟩
  · rintro ⟨⟨hbucket, hothers, hsize⟩, hending⟩
    exact ⟨hbucket, ⟨hothers, hending⟩, hsize⟩

/-- The references of some rows: the objects of those on which the test says yes. -/
theorem mem_references {p : Predicate} {rows : List Row} {refs : List Reference}
    (h : p.references rows = .ok refs) {ref : Reference} :
    ref ∈ refs ↔
      ∃ r ∈ rows, p.accepts r = .ok true ∧ r.bucket = some ref.bucket ∧ r.key = some ref.key := by
  induction rows generalizing refs with
  | nil =>
    cases h
    simp only [List.not_mem_nil, false_and, exists_false]
  | cons r rest ih =>
    rw [references, Work.bind_eq_ok] at h
    obtain ⟨passes, hpasses, hrest⟩ := h
    rw [Work.bind_eq_ok] at hrest
    obtain ⟨others, hothers, h⟩ := hrest
    rw [List.exists_mem_cons_iff, ← ih hothers, hpasses]
    split at h
    next bucket key hbucket hkey =>
      cases h
      rw [List.mem_cons, hbucket, hkey]
      apply or_congr_left
      cases ref
      simp only [Reference.mk.injEq, true_and, Option.some.injEq, eq_comm]
    next hno =>
      cases h
      rw [or_iff_right]
      rintro ⟨hyes, hbucket, hkey⟩
      cases hyes
      exact hno _ _ rfl hbucket hkey

/-- Rows that can all be tested have references. -/
theorem references_of_accepts {p : Predicate} {rows : List Row}
    (h : ∀ r ∈ rows, ∃ b, p.accepts r = .ok b) : ∃ refs, p.references rows = .ok refs := by
  induction rows with
  | nil => exact ⟨[], rfl⟩
  | cons r rest ih =>
    obtain ⟨b, hb⟩ := h r (List.mem_cons_self ..)
    obtain ⟨others, hothers⟩ := ih fun t ht => h t (List.mem_cons_of_mem _ ht)
    rw [references, hb, hothers]
    cases b with
    | false => exact ⟨others, rfl⟩
    | true =>
      cases r.bucket with
      | none => exact ⟨others, rfl⟩
      | some bucket =>
        cases r.key with
        | none => exact ⟨others, rfl⟩
        | some key => exact ⟨⟨bucket, key⟩ :: others, rfl⟩

/-- Rows whose size is an integer or null have the references of those that pass. -/
theorem references_of_sized (p : Predicate) (rows : List Row) (h : ∀ r ∈ rows, r.Sized) :
    ∃ refs, p.references rows = .ok refs ∧ ∀ ref : Reference, ref ∈ refs ↔
      ∃ r ∈ rows, p.Passes r ∧ r.bucket = some ref.bucket ∧ r.key = some ref.key := by
  obtain ⟨refs, hrefs⟩ := references_of_accepts (p := p) fun r hr => by
    obtain ⟨b, hb, -⟩ := p.accepts_of_sized (h r hr)
    exact ⟨b, hb⟩
  refine ⟨refs, hrefs, fun ref => (mem_references hrefs).trans ?_⟩
  apply exists_congr
  intro r
  apply and_congr_right
  intro hr
  obtain ⟨b, hb, hpass⟩ := p.accepts_of_sized (h r hr)
  rw [hb, Except.ok.injEq, hpass]

end Predicate
end ObjectIntake.Event
