import ObjectIntake.Proofs.Checkpoint.Resolution

/-!
The range of versions that a change log names for a checkpoint. It is a function of the versions listed, and
resolving a checkpoint comes down to it.
-/
namespace ObjectIntake.Checkpoint
open Settings

variable {W Rows Data : Type}

/-- What is read next from a change log. The versions are listed before the checkpoint is looked at. -/
def resolveRange (platform : Platform W Rows Data) (path : String) (checkpoint : Json) (count : Int)
    (strategy : Option Strategy) : Work W Version.Plan := do
  let versions ← platform.versions path
  let lower ← Work.ofExcept (startOf checkpoint)
  planRange versions count lower strategy (.str path)

/-- The plan for the versions listed, or what is wrong with them, with the checkpoint or with the warning. -/
def rangeOf (versions : List Int) (path : String) (checkpoint : Json) (count : Int) (strategy : Option Strategy) :
    Except Failure Version.Plan := do
  let lower ← startOf checkpoint
  match Version.plan versions count lower strategy with
  | .error .noVersions => throw (.resolution (.noVersions (.str path)))
  | .error .noStrategy => throw (.resolution (.noStrategy (.str path)))
  | .ok plan => warned plan

theorem resolveRange_gives {platform : Platform W Rows Data} {path : String} {versions : List Int} {w after : W}
    (h : (platform.versions path).Gives w (.ok versions) after) (checkpoint : Json) (count : Int)
    (strategy : Option Strategy) :
    (resolveRange platform path checkpoint count strategy).Gives w
      (rangeOf versions path checkpoint count strategy) after := by
  refine h.bind ((Work.Gives.ofExcept _).bind_steady fun lower _ => ?_)
  cases hplan : Version.plan versions count lower strategy with
  | error e =>
    unfold planRange
    rw [hplan]
    cases e with
    | noVersions => exact Work.Gives.throw _
    | noStrategy => exact Work.Gives.throw _
  | ok plan => exact planRange_of_ok after hplan _

/-- With a base path and a size, what remains of resolving is to ask for the range and to write its end. -/
theorem resolve_live (platform : Platform W Rows Data) (channel : String) {s : SourceSettings} {path : String}
    (hpath : s.basePath = some path) (hne : path ≠ "") (hsize : 1 ≤ s.fetchSize) (last : Json) :
    resolve platform channel s.live last = (do
      let strategy ← effectiveStrategy channel s.live
      let plan ← resolveRange platform path (normalize last) s.fetchSize strategy
      let token ← Work.ofExcept (format plan.range.upper)
      Work.tell channel .info (resolvedText last plan)
      return ⟨plan.mode, plan.range, token⟩) := by
  have hchecked (u : Use) : (Work.ofExcept (s.live.check u) : Work W Unit) = pure () := rfl
  have hvalue : s.live.value .basePath = .str path := by
    change Json.ofOption s.basePath = _
    rw [hpath]
    rfl
  have hbelow : ¬ s.live.fetchSize < 1 := by
    change ¬ s.fetchSize < 1
    omega
  unfold resolve resolveRange
  dsimp only
  split
  next hnone => exact absurd (hpath.symm.trans hnone) (by simp)
  next hempty => exact absurd (Option.some.inj (hpath.symm.trans hempty)) hne
  next given _ hgiven =>
    obtain rfl := Option.some.inj (hpath.symm.trans hgiven)
    simp only [hchecked, hvalue, if_neg hbelow, pure_bind, bind_assoc, ite_self]
    rfl

end ObjectIntake.Checkpoint
