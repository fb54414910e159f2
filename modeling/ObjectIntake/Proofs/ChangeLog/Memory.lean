import Mathlib.Data.List.Basic
import ObjectIntake.ChangeLog.Memory
import ObjectIntake.Proofs.Version.Tiling
import ObjectIntake.Proofs.Work

/-!
The change log in memory: which versions it lists, what rows a range holds, and what a commit adds.
-/
namespace ObjectIntake.Memory
open Event ObjectPath Dataset

namespace Log

/-- Every version has its rows in one place, and the versions ascend. -/
def Ordered (log : Log) : Prop := (log.commits.map (·.1)).Pairwise (· < ·)

theorem mem_putInto {version v : Int} {rows : List Row} {commits : List (Int × List Row)}
    (h : v ∈ (putInto version rows commits).map (·.1)) : v = version ∨ v ∈ commits.map (·.1) := by
  induction commits with
  | nil =>
    left
    simpa only [putInto, List.map_cons, List.map_nil, List.mem_singleton] using h
  | cons c rest ih =>
    obtain ⟨k, old⟩ := c
    unfold putInto at h
    split at h
    next hk =>
      subst hk
      exact Or.inr h
    next =>
      split at h
      next => simpa only [List.map_cons, List.mem_cons] using h
      next =>
        rw [List.map_cons, List.mem_cons] at h
        rcases h with rfl | h
        · exact Or.inr (List.mem_cons_self ..)
        · exact (ih h).imp_right (List.mem_cons_of_mem _)

theorem pairwise_putInto {version : Int} {rows : List Row} {commits : List (Int × List Row)}
    (h : (commits.map (·.1)).Pairwise (· < ·)) :
    ((putInto version rows commits).map (·.1)).Pairwise (· < ·) := by
  induction commits with
  | nil => exact List.pairwise_singleton _ _
  | cons c rest ih =>
    obtain ⟨k, old⟩ := c
    obtain ⟨hk, hrest⟩ := List.pairwise_cons.mp h
    unfold putInto
    split
    next heq =>
      subst heq
      exact h
    next hne =>
      split
      next hlt =>
        refine List.pairwise_cons.mpr ⟨?_, h⟩
        intro v hv
        rcases List.mem_cons.mp hv with rfl | hv
        · exact hlt
        · exact Int.lt_trans hlt (hk v hv)
      next hge =>
        have hlt : k < version := by omega
        refine List.pairwise_cons.mpr ⟨?_, ih hrest⟩
        intro v hv
        rcases mem_putInto hv with rfl | hv
        · exact hlt
        · exact hk v hv

theorem Ordered.put {log : Log} (h : log.Ordered) (version : Int) (rows : List Row) :
    (log.put version rows).Ordered := pairwise_putInto h

theorem Ordered.commit {log : Log} (h : log.Ordered) (rows : List Row) : (log.commit rows).Ordered :=
  h.put log.next rows

theorem Ordered.retain {log : Log} (h : log.Ordered) (least : Int) : (log.retain least).Ordered := h

theorem mem_versions {log : Log} {v : Int} :
    v ∈ log.versions ↔ (∃ rows, (v, rows) ∈ log.commits) ∧ log.retainedFrom ≤ v := by
  rw [versions, Version.mem_ascending, List.mem_filter, decide_eq_true_eq, List.mem_map]
  simp only [Prod.exists, exists_and_right, exists_eq_right]

theorem Ordered.pairwise_versions {log : Log} (h : log.Ordered) : log.versions.Pairwise (· < ·) := by
  have hlisted := h.filter (log.retainedFrom ≤ ·)
  rw [versions, Version.ascending_eq_self (hlisted.imp Int.le_of_lt)]
  exact hlisted

theorem lt_next {log : Log} {c : Int × List Row} (h : c ∈ log.commits) : c.1 < log.next := by
  have hkey : c.1 ∈ log.commits.map (·.1) := List.mem_map_of_mem h
  unfold next
  split
  next newest hmax =>
    have := (List.max?_eq_some_iff.mp hmax).2 _ hkey
    omega
  next hnone =>
    rw [List.max?_eq_none_iff] at hnone
    rw [hnone] at hkey
    exact absurd hkey List.not_mem_nil

/-- Batches of rows under the versions that they get when they are committed one after the other. -/
def numbered (batches : List (List Row)) : List (Int × List Row) :=
  batches.mapIdx fun i rows => ((i : Int), rows)

theorem next_of_numbered {log : Log} {batches : List (List Row)} (h : log.commits = numbered batches) :
    log.next = batches.length := by
  unfold next
  rw [h]
  split
  next newest hmax =>
    obtain ⟨hmem, hle⟩ := List.max?_eq_some_iff.mp hmax
    obtain ⟨c, hc, rfl⟩ := List.mem_map.mp hmem
    obtain ⟨i, hi, rfl⟩ := List.mem_mapIdx.mp hc
    have hlast : ((batches.length - 1 : Nat) : Int) ∈ (numbered batches).map (·.1) :=
      List.mem_map.mpr ⟨_, List.mem_mapIdx.mpr ⟨batches.length - 1, by omega, rfl⟩, rfl⟩
    have := hle _ hlast
    dsimp only at this ⊢
    omega
  next hnone =>
    rw [List.max?_eq_none_iff, List.map_eq_nil_iff, numbered, List.mapIdx_eq_nil_iff] at hnone
    rw [hnone]
    rfl

theorem numbered_concat (batches : List (List Row)) (rows : List Row) :
    numbered (batches ++ [rows]) = numbered batches ++ [((batches.length : Int), rows)] := by
  rw [numbered, List.mapIdx_append]
  simp only [List.mapIdx_cons, List.mapIdx_nil, Nat.zero_add]
  rfl

theorem mem_numbered {batches : List (List Row)} {v : Nat} {rows : List Row}
    (h : batches[v]? = some rows) : ((v : Int), rows) ∈ numbered batches := by
  obtain ⟨hlt, rfl⟩ := List.getElem?_eq_some_iff.mp h
  exact List.mem_mapIdx.mpr ⟨v, hlt, rfl⟩

/-- A version above all others goes to the end. -/
theorem putInto_of_forall_lt {version : Int} {rows : List Row} {commits : List (Int × List Row)}
    (h : ∀ c ∈ commits, c.1 < version) : putInto version rows commits = commits ++ [(version, rows)] := by
  induction commits with
  | nil => rfl
  | cons c rest ih =>
    obtain ⟨k, old⟩ := c
    have hk := h (k, old) (List.mem_cons_self ..)
    rw [putInto, if_neg (by omega), if_neg (by omega),
      ih fun d hd => h d (List.mem_cons_of_mem _ hd), List.cons_append]

theorem commits_commit (log : Log) (rows : List Row) :
    (log.commit rows).commits = log.commits ++ [(log.next, rows)] :=
  putInto_of_forall_lt fun _ hc => lt_next hc

theorem mem_rows {log : Log} {range : VersionRange} {row : Row} :
    row ∈ log.rows range ↔ ∃ c ∈ log.commits, range.holds c.1 = true ∧ row ∈ c.2 := by
  simp only [rows, List.mem_flatMap, List.mem_filter, and_assoc]

theorem rows_of_caughtUp {log : Log} {range : VersionRange} (h : range.caughtUp = true) :
    log.rows range = [] := by
  rw [List.eq_nil_iff_forall_not_mem]
  intro row hrow
  obtain ⟨c, -, hholds, -⟩ := mem_rows.mp hrow
  have heq := VersionRange.caughtUp_iff.mp h
  rw [VersionRange.holds_iff] at hholds
  omega

/-- A range that ends below the next version has all its rows already. -/
theorem rows_commit {log : Log} {range : VersionRange} (h : range.upper < log.next) (rows : List Row) :
    (log.commit rows).rows range = log.rows range := by
  have hout : range.holds log.next = false := by
    rw [← Bool.not_eq_true, VersionRange.holds_iff]
    omega
  unfold Log.rows
  rw [commits_commit, List.filter_append, List.filter_cons_of_neg (by rw [hout]; exact Bool.false_ne_true),
    List.filter_nil, List.append_nil]

/-- The rows of a version stand together in every range that holds it. -/
theorem infix_rows {log : Log} {range : VersionRange} {v : Int} {rows : List Row}
    (h : (v, rows) ∈ log.commits) (hv : range.holds v = true) : rows <:+: log.rows range := by
  have hmem : (v, rows) ∈ log.commits.filter fun c => range.holds c.1 := List.mem_filter.mpr ⟨h, hv⟩
  rw [Log.rows, List.flatMap_def]
  exact List.infix_of_mem_flatten (List.mem_map_of_mem hmem)

end Log

/-- The platform in memory, with a probe whose answers follow its state in any way. -/
def probing (answers : Probe → String → Presence) : Platform Site (List Row) Table :=
  { platform with presence := fun site => answers site.probe }

theorem versions_gives (basePath : String) (site : Site) :
    (versions basePath).Gives site (.ok site.log.versions) site :=
  Work.Gives.world.bind (Work.Gives.pure _)

theorem read_gives (mode : ReadMode) (basePath : String) (range : VersionRange) (site : Site) :
    (read mode basePath range).Gives site (.ok (site.log.rows range)) (site.noteRead mode range) :=
  (Work.Gives.change _).bind (Work.Gives.world.bind (Work.Gives.pure _))

theorem references_gives (predicate : Predicate) (rows : List Row) (site : Site) :
    (platform.references predicate rows).Gives site (predicate.references rows) site :=
  Work.Gives.ofExcept _

theorem load_gives (format : String) (options : Keyed Json) (paths : List String) (site : Site) :
    (load format options paths).Gives site (.ok (Table.load site.files format options paths))
      (site.noteLoad paths) :=
  (Work.Gives.change _).bind (Work.Gives.world.bind (Work.Gives.pure _))

end ObjectIntake.Memory
