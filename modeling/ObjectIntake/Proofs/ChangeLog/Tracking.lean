import Mathlib.Data.List.Zip
import ObjectIntake.Proofs.ChangeLog.ReadModes
import ObjectIntake.Proofs.Checkpoint.Range
import ObjectIntake.Proofs.Version.Extent

/-!
A change log looks a table up until it has found it, and holds it from then on, even if none could be found at its path
any more. What it tells of the versions is still what the table lists at that moment.
-/
namespace ObjectIntake.Lakehouse
open Checkpoint

/-- What a change log is asked about a path: its versions, or the range that is read next. -/
inductive Query where
  | versions (path : String)
  | range (path : String) (checkpoint : Json) (count : Int) (strategy : Option Strategy)

inductive Answer where
  | versions (listed : List Int)
  | range (plan : Version.Plan)

namespace Query

def path : Query → String
  | versions path => path
  | range path _ _ _ => path

def ask (commitColumn : String) : Query → Work Engine Answer
  | versions path => return .versions (← (platform commitColumn).versions path)
  | range path checkpoint count strategy =>
      return .range (← resolveRange (platform commitColumn) path checkpoint count strategy)

/-- The answer to a query that sees these versions. -/
def conclude : Query → List Int → Except Failure Answer
  | versions _, seen => .ok (.versions seen)
  | range path checkpoint count strategy, seen => (rangeOf seen path checkpoint count strategy).map .range

end Query

/-- The calls in which the history of a table is read. -/
def reading : List Call := [.history, .select ["version", "timestamp", "operation", "operationMetrics"], .collect]

def Call.looksUp (path : String) : Call → Bool
  | .forPath other => path = other
  | _ => false

def Call.isHistory : Call → Bool
  | .history => true
  | _ => false

/-- The engine with other tables, or with the same ones and other histories of them. -/
def Engine.withCatalog (e : Engine) (catalog : Catalog) : Engine := { e with toCatalog := catalog }

/-- A query, with the tables as they are when it comes. -/
structure Visit where
  catalog : Catalog
  query : Query

/-- The answer to a query, and the calls on the engine that it took. -/
structure Outcome where
  answer : Except Failure Answer
  calls : List Call

namespace Visit

def path (v : Visit) : String := v.query.path

/-- The table that the query is about, as it is held once it is found. -/
def handle (v : Visit) : Handle := ⟨v.path⟩

/-- The table can be found now. -/
def Opens (v : Visit) : Prop := v.catalog.opened v.path = .ok v.handle

/-- What reading the history of the table gives now. -/
def history (v : Visit) : Except String (List HistoryEntry) := v.catalog.historyNow v.handle

def runIn (commitColumn : String) (v : Visit) (scene : Scene Engine) : Outcome × Scene Engine :=
  let (answer, after) :=
    Work.runIn (v.query.ask commitColumn) { scene with world := scene.world.withCatalog v.catalog }
  (⟨answer, after.world.calls.drop scene.world.calls.length⟩, after)

/-- The outcome of each visit where one comes after the other. -/
def runAll (commitColumn : String) : List Visit → Scene Engine → List Outcome × Scene Engine
  | [], scene => ([], scene)
  | v :: rest, scene =>
      let (outcome, next) := v.runIn commitColumn scene
      let (outcomes, last) := runAll commitColumn rest next
      (outcome :: outcomes, last)

/-- The outcome where the table is at hand. -/
def served (v : Visit) : Outcome :=
  match v.history with
  | .ok entries => ⟨v.query.conclude (Version.ascending (entries.map (·.version))), reading⟩
  | .error reason => ⟨.error (.engine reason), [.history]⟩

/-- The outcome where some tables have been found before. -/
def outcome (found : List Handle) (v : Visit) : Outcome :=
  if v.handle ∈ found then v.served
  else
    match v.catalog.opened v.path with
    | .ok _ => ⟨v.served.answer, .forPath v.path :: v.served.calls⟩
    | .error reason => ⟨.error (.resolution (.tableUnreadable v.path reason)), [.forPath v.path]⟩

instance (v : Visit) : Decidable v.Opens :=
  match h : v.catalog.opened v.path with
  | .ok handle => decidable_of_iff (handle = v.handle) (by rw [Opens, h, Except.ok.injEq])
  | .error _ => isFalse (by simp [Opens, h])

/-- The tables that have been found after the visit. -/
def learn (found : List Handle) (v : Visit) : List Handle :=
  if v.handle ∉ found ∧ v.Opens then v.handle :: found else found

end Visit

section Lookup

variable {e : Engine} {path reason : String} {handle : Handle}

theorem Catalog.opened_eq {catalog : Catalog} (h : catalog.opened path = .ok handle) : handle = ⟨path⟩ := by
  unfold opened at h
  split at h
  · cases h
  · split at h
    · cases h
      rfl
    · cases h

theorem findTable_ok (h : e.opened path = .ok handle) :
    (findTable path).Gives e (.ok handle) (e.noting [.forPath path]) := by
  unfold findTable
  refine (Work.Gives.change _).bind (Work.Gives.world.bind ?_)
  change (match e.opened path with | .ok _ => _ | .error _ => _ : Work Engine Handle).Gives _ _ _
  rw [h]
  exact Work.Gives.pure handle

theorem findTable_error (h : e.opened path = .error reason) :
    (findTable path).Gives e (.error (.resolution (.tableUnreadable path reason))) (e.noting [.forPath path]) := by
  unfold findTable
  refine (Work.Gives.change _).bind (Work.Gives.world.bind ?_)
  change (match e.opened path with | .ok _ => _ | .error _ => _ : Work Engine Handle).Gives _ _ _
  rw [h]
  exact Work.Gives.throw _

/-- A table is held under its own path. -/
theorem find?_found (found : List Handle) (path : String) :
    (found.find? fun handle => handle.location = path) = if ⟨path⟩ ∈ found then some ⟨path⟩ else none := by
  split
  next hfound =>
    cases hfind : found.find? fun handle => handle.location = path with
    | none => exact absurd (List.find?_eq_none.mp hfind _ hfound) (by simp)
    | some handle =>
      obtain ⟨location⟩ := handle
      obtain rfl : location = path := by simpa using List.find?_some hfind
      rfl
  next hfound =>
    rw [List.find?_eq_none]
    rintro ⟨location⟩ hmem hpath
    obtain rfl : location = path := by simpa using hpath
    exact hfound hmem

theorem heldTable_found (hfound : ⟨path⟩ ∈ e.found) : (heldTable path).Gives e (.ok ⟨path⟩) e := by
  unfold heldTable
  refine Work.Gives.world.bind ?_
  rw [find?_found, if_pos hfound]
  exact Work.Gives.pure _

theorem heldTable_first (hfound : ⟨path⟩ ∉ e.found) (h : e.opened path = .ok ⟨path⟩) :
    (heldTable path).Gives e (.ok ⟨path⟩) { e.noting [.forPath path] with found := ⟨path⟩ :: e.found } := by
  unfold heldTable
  refine Work.Gives.world.bind ?_
  rw [find?_found, if_neg hfound]
  exact (findTable_ok h).bind ((Work.Gives.change _).bind (Work.Gives.pure _))

theorem heldTable_none (hfound : ⟨path⟩ ∉ e.found) (h : e.opened path = .error reason) :
    (heldTable path).Gives e (.error (.resolution (.tableUnreadable path reason))) (e.noting [.forPath path]) := by
  unfold heldTable
  refine Work.Gives.world.bind ?_
  rw [find?_found, if_neg hfound]
  exact (findTable_error h).bind_error

/-- The first time that a change log is asked for is remembered, and nothing else comes of it. -/
theorem trackedTable_gives (path : String) (e : Engine) :
    ∃ tracked, ∀ {r : Except Failure Handle} {after : Engine},
      (heldTable path).Gives { e with tracked := tracked } r after → (trackedTable path).Gives e r after := by
  cases hcontains : e.tracked.contains path with
  | true =>
    refine ⟨e.tracked, fun h => ?_⟩
    unfold trackedTable
    refine Work.Gives.world.bind ?_
    rw [hcontains]
    exact h
  | false =>
    refine ⟨path :: e.tracked, fun h => ?_⟩
    unfold trackedTable
    refine Work.Gives.world.bind ?_
    rw [hcontains]
    exact (Work.Gives.log _ _ _).bind ((Work.Gives.change _).bind h)

end Lookup

section Versions

variable {path reason : String} {e after : Engine} {handle : Handle} {entries : List HistoryEntry}

/-- A table that the change log has, or now gets, tells the versions of its history, in their order. -/
theorem versions_gives (h : (trackedTable path).Gives e (.ok handle) after)
    (hhistory : after.historyNow handle = .ok entries) :
    (versions path).Gives e (.ok (Version.ascending (entries.map (·.version)))) (after.noting reading) := by
  have hentries : (historyOf handle).Gives after (.ok (entries.map HistoryEntry.info)) (after.noting reading) := by
    unfold historyOf
    refine (Work.Gives.change _).bind (Work.Gives.world.bind ?_)
    change (match after.historyNow handle with | .ok _ => _ | .error _ => _ : Work Engine _).Gives _ _ _
    rw [hhistory]
    exact (callAll_gives after [.history] _).bind (Work.Gives.pure _)
  have hversions : (entries.map HistoryEntry.info).map (·.version) = entries.map (·.version) := List.map_map
  refine h.bind (hentries.bind ?_)
  rw [hversions]
  exact Work.Gives.pure _

theorem versions_fails (h : (trackedTable path).Gives e (.ok handle) after)
    (hhistory : after.historyNow handle = .error reason) :
    (versions path).Gives e (.error (.engine reason)) (after.noting [.history]) := by
  refine h.bind (Work.Gives.bind_error ?_)
  unfold historyOf
  refine (Work.Gives.change _).bind (Work.Gives.world.bind ?_)
  change (match after.historyNow handle with | .ok _ => _ | .error _ => _ : Work Engine _).Gives _ _ _
  rw [hhistory]
  exact Work.Gives.throw _

/-- Once a table has been found, and while it can be, the change log lists the versions of its history. -/
theorem lists_platform (commitColumn path : String) (versions : List Int) :
    Lists (platform commitColumn) path versions fun e =>
      (⟨path⟩ ∈ e.found ∨ e.opened path = .ok ⟨path⟩) ∧
        ∃ entries, e.historyNow ⟨path⟩ = .ok entries ∧
          Version.ascending (entries.map (·.version)) = versions := by
  rintro e ⟨hthere, entries, hhistory, rfl⟩
  obtain ⟨tracked, htracked⟩ := trackedTable_gives path e
  by_cases hfound : ⟨path⟩ ∈ e.found
  · refine ⟨_, ?_, versions_gives (htracked (heldTable_found hfound)) hhistory⟩
    exact ⟨.inl hfound, entries, hhistory, rfl⟩
  · have hopens := hthere.resolve_left hfound
    refine ⟨_, ?_, versions_gives (htracked (heldTable_first hfound hopens)) hhistory⟩
    exact ⟨.inl (List.mem_cons_self ..), entries, hhistory, rfl⟩

end Versions

theorem Query.ask_gives (commitColumn : String) (q : Query) {e after : Engine} {seen : List Int}
    (h : (Lakehouse.versions q.path).Gives e (.ok seen) after) :
    (q.ask commitColumn).Gives e (q.conclude seen) after := by
  cases q with
  | versions path => exact h.bind (Work.Gives.pure _)
  | range path checkpoint count strategy =>
    have hrange : (resolveRange (platform commitColumn) path checkpoint count strategy).Gives e _ after :=
      resolveRange_gives h checkpoint count strategy
    change Work.Gives _ e ((rangeOf seen path checkpoint count strategy).map Answer.range) after
    cases hplan : rangeOf seen path checkpoint count strategy with
    | ok plan => exact (hplan ▸ hrange).bind (Work.Gives.pure _)
    | error failure => exact (hplan ▸ hrange).bind_error

theorem Query.ask_fails (commitColumn : String) (q : Query) {e after : Engine} {failure : Failure}
    (h : (Lakehouse.versions q.path).Gives e (.error failure) after) :
    (q.ask commitColumn).Gives e (.error failure) after := by
  cases q with
  | versions path => exact h.bind_error
  | range path checkpoint count strategy => exact Work.Gives.bind_error h.bind_error

namespace Visit

section Outcome

variable {v : Visit} {found : List Handle} {reason : String}

theorem opens_or_error (v : Visit) : v.Opens ∨ ∃ reason, v.catalog.opened v.path = .error reason := by
  cases hopened : v.catalog.opened v.path with
  | error reason => exact .inr ⟨reason, rfl⟩
  | ok handle =>
    obtain rfl := Catalog.opened_eq hopened
    exact .inl hopened

theorem not_opens (h : v.catalog.opened v.path = .error reason) : ¬ v.Opens := by
  rw [Opens, h]
  simp

theorem outcome_of_found (hfound : v.handle ∈ found) : v.outcome found = v.served := if_pos hfound

theorem outcome_of_first (h : v.Opens) (hfound : v.handle ∉ found) :
    v.outcome found = ⟨v.served.answer, .forPath v.path :: v.served.calls⟩ := by
  rw [outcome, if_neg hfound, h]

theorem outcome_of_error (h : v.catalog.opened v.path = .error reason) (hfound : v.handle ∉ found) :
    v.outcome found = ⟨.error (.resolution (.tableUnreadable v.path reason)), [.forPath v.path]⟩ := by
  rw [outcome, if_neg hfound, h]

theorem served_of_ok {entries : List HistoryEntry} (h : v.history = .ok entries) :
    v.served = ⟨v.query.conclude (Version.ascending (entries.map (·.version))), reading⟩ := by
  rw [served, h]

theorem served_of_error (h : v.history = .error reason) : v.served = ⟨.error (.engine reason), [.history]⟩ := by
  rw [served, h]

theorem learn_of_not_opens (h : ¬ v.Opens) (found : List Handle) : v.learn found = found :=
  if_neg fun hboth => h hboth.2

theorem learn_of_found (hfound : v.handle ∈ found) : v.learn found = found := if_neg fun hboth => hboth.1 hfound

theorem learn_of_first (h : v.Opens) (hfound : v.handle ∉ found) : v.learn found = v.handle :: found :=
  if_pos ⟨hfound, h⟩

theorem mem_learn {handle : Handle} : handle ∈ v.learn found ↔ handle ∈ found ∨ handle = v.handle ∧ v.Opens := by
  unfold learn
  split
  next h => simp [h.2, or_comm]
  next h =>
    constructor
    · exact .inl
    · rintro (hmem | ⟨rfl, hopens⟩)
      · exact hmem
      · by_contra hnot
        exact h ⟨hnot, hopens⟩

end Outcome

variable (commitColumn : String)

/-- A query whose table is at hand has the outcome that its history makes. -/
theorem ask_served {v : Visit} {e after : Engine} (h : (trackedTable v.path).Gives e (.ok v.handle) after)
    (hcatalog : after.toCatalog = v.catalog) :
    (v.query.ask commitColumn).Gives e v.served.answer (after.noting v.served.calls) := by
  have hnow : after.historyNow v.handle = v.history := by rw [history, ← hcatalog]
  cases hhistory : v.history with
  | ok entries =>
    rw [served_of_ok hhistory]
    exact v.query.ask_gives commitColumn (versions_gives h (hnow.trans hhistory))
  | error reason =>
    rw [served_of_error hhistory]
    exact v.query.ask_fails commitColumn (versions_fails h (hnow.trans hhistory))

/-- One visit: its outcome, and what it adds to the tables found and to the calls made. -/
theorem runIn_outcome (v : Visit) (scene : Scene Engine) :
    (v.runIn commitColumn scene).1 = v.outcome scene.world.found ∧
      (v.runIn commitColumn scene).2.world.found = v.learn scene.world.found ∧
      (v.runIn commitColumn scene).2.world.calls =
        scene.world.calls ++ (v.outcome scene.world.found).calls := by
  obtain ⟨tracked, htracked⟩ := trackedTable_gives v.path (scene.world.withCatalog v.catalog)
  -- In each case the query leaves an engine that has the calls and the tables found as they should be.
  suffices hgives : ∃ after : Engine, (v.query.ask commitColumn).Gives (scene.world.withCatalog v.catalog)
      (v.outcome scene.world.found).answer after ∧ after.found = v.learn scene.world.found ∧
      after.calls = scene.world.calls ++ (v.outcome scene.world.found).calls by
    obtain ⟨after, hgives, hfound, hcalls⟩ := hgives
    obtain ⟨hanswer, hworld⟩ := hgives { scene with world := scene.world.withCatalog v.catalog } rfl
    unfold runIn
    dsimp only
    rw [hanswer, hworld, hcalls, List.drop_left]
    exact ⟨rfl, hfound, rfl⟩
  by_cases hfound : v.handle ∈ scene.world.found
  · rw [outcome_of_found hfound, learn_of_found hfound]
    exact ⟨_, ask_served commitColumn (htracked (heldTable_found hfound)) rfl, rfl, rfl⟩
  · rcases v.opens_or_error with hopens | ⟨reason, herror⟩
    · rw [outcome_of_first hopens hfound, learn_of_first hopens hfound]
      exact ⟨_, ask_served commitColumn (htracked (heldTable_first hfound hopens)) rfl, rfl,
        List.append_assoc _ _ _⟩
    · rw [outcome_of_error herror hfound, learn_of_not_opens (not_opens herror)]
      exact ⟨_, v.query.ask_fails commitColumn (htracked (heldTable_none hfound herror)).bind_error, rfl, rfl⟩

/-- The outcomes of visits where some tables have been found before the first. -/
def outcomes (found : List Handle) : List Visit → List Outcome
  | [] => []
  | v :: rest => v.outcome found :: outcomes (v.learn found) rest

/-- Any number of visits: their outcomes, and the calls that they add. -/
theorem runAll_outcomes (visits : List Visit) (scene : Scene Engine) :
    (runAll commitColumn visits scene).1 = outcomes scene.world.found visits ∧
      (runAll commitColumn visits scene).2.world.calls =
        scene.world.calls ++ (outcomes scene.world.found visits).flatMap (·.calls) := by
  induction visits generalizing scene with
  | nil => exact ⟨rfl, (List.append_nil _).symm⟩
  | cons v rest ih =>
    obtain ⟨houtcome, hfound, hcalls⟩ := runIn_outcome commitColumn v scene
    obtain ⟨hrest, hlater⟩ := ih (v.runIn commitColumn scene).2
    rw [hfound] at hrest hlater
    rw [hcalls] at hlater
    simp only [runAll, outcomes, houtcome, hrest, hlater, List.flatMap_cons, List.append_assoc, and_self]

theorem length_outcomes (found : List Handle) (visits : List Visit) :
    (outcomes found visits).length = visits.length := by
  induction visits generalizing found with
  | nil => rfl
  | cons v rest ih => rw [outcomes, List.length_cons, List.length_cons, ih]

theorem outcomes_append (found : List Handle) (before later : List Visit) :
    outcomes found (before ++ later) = outcomes found before ++ outcomes (before.foldl learn found) later := by
  induction before generalizing found with
  | nil => rfl
  | cons v rest ih => rw [List.cons_append, outcomes, ih, outcomes, List.cons_append, List.foldl_cons]

/-- The table at a path could be found at a visit to it. -/
def Resolved (visits : List Visit) (path : String) : Prop := ∃ v ∈ visits, v.path = path ∧ v.Opens

/-- The tables found are those that could be found at a visit. -/
theorem mem_foldl_learn {visits : List Visit} {found : List Handle} {path : String} :
    ⟨path⟩ ∈ visits.foldl learn found ↔ ⟨path⟩ ∈ found ∨ Resolved visits path := by
  induction visits generalizing found with
  | nil => simp [Resolved]
  | cons v rest ih =>
    rw [List.foldl_cons, ih, mem_learn]
    simp only [Resolved, List.exists_mem_cons_iff, or_assoc, handle, Handle.mk.injEq, eq_comm]

/-- A visit that finds no table leaves the outcomes of the others as they are. -/
theorem outcomes_eraseIdx (found : List Handle) {before later : List Visit} {v : Visit} (h : ¬ v.Opens) :
    (outcomes found (before ++ v :: later)).eraseIdx before.length = outcomes found (before ++ later) := by
  have hlength := length_outcomes found before
  rw [outcomes_append, outcomes_append, outcomes, learn_of_not_opens h,
    List.eraseIdx_append_of_length_le hlength.le, hlength, Nat.sub_self, List.eraseIdx_cons_zero]

/-- Only the table of the visit matters among those found. -/
theorem outcome_congr {v : Visit} {found others : List Handle} (h : v.handle ∈ found ↔ v.handle ∈ others) :
    v.outcome found = v.outcome others := by
  unfold outcome
  simp only [h]

/-- The visits to one path have the outcomes that they would have alone. -/
theorem outcomes_filter {path : String} {found others : List Handle} (h : ⟨path⟩ ∈ found ↔ ⟨path⟩ ∈ others)
    (visits : List Visit) :
    ((visits.zip (outcomes found visits)).filter fun r => r.1.path = path).map (·.2) =
      outcomes others (visits.filter fun v => v.path = path) := by
  induction visits generalizing found others with
  | nil => rfl
  | cons v rest ih =>
    rw [outcomes, List.zip_cons_cons]
    by_cases hpath : v.path = path
    · obtain rfl := hpath
      have hlearn : v.handle ∈ v.learn found ↔ v.handle ∈ v.learn others := by
        rw [mem_learn, mem_learn]
        exact or_congr_left h
      rw [List.filter_cons_of_pos (by simp), List.filter_cons_of_pos (by simp), outcomes, List.map_cons,
        ih hlearn, outcome_congr h]
    · have hlearn : ⟨path⟩ ∈ v.learn found ↔ ⟨path⟩ ∈ others := by
        rw [mem_learn, or_iff_left fun hboth => hpath (Handle.mk.inj hboth.1).symm, h]
      rw [List.filter_cons_of_neg (by simpa using hpath), List.filter_cons_of_neg (by simpa using hpath), ih hlearn]

theorem countP_looksUp_served (v : Visit) (path : String) : v.served.calls.countP (Call.looksUp path) = 0 := by
  cases hhistory : v.history with
  | ok entries => rw [served_of_ok hhistory]; rfl
  | error reason => rw [served_of_error hhistory]; rfl

theorem countP_isHistory_served (v : Visit) : v.served.calls.countP Call.isHistory = 1 := by
  cases hhistory : v.history with
  | ok entries => rw [served_of_ok hhistory]; rfl
  | error reason => rw [served_of_error hhistory]; rfl

/-- The look-ups of a visit: one, unless the table was found before. -/
theorem countP_looksUp (v : Visit) (found : List Handle) (path : String) :
    (v.outcome found).calls.countP (Call.looksUp path) = if path = v.path ∧ v.handle ∉ found then 1 else 0 := by
  by_cases hfound : v.handle ∈ found
  · rw [outcome_of_found hfound, countP_looksUp_served, if_neg fun h => h.2 hfound]
  · rcases v.opens_or_error with hopens | ⟨reason, herror⟩
    · rw [outcome_of_first hopens hfound, List.countP_cons, countP_looksUp_served]
      by_cases hpath : path = v.path <;> simp [Call.looksUp, hpath, hfound]
    · rw [outcome_of_error herror hfound]
      by_cases hpath : path = v.path <;> simp [Call.looksUp, hpath, hfound]

/-- The history is read once where the table was found before or can be found now. -/
theorem countP_isHistory (v : Visit) (found : List Handle) :
    (v.outcome found).calls.countP Call.isHistory = if v.handle ∈ found ∨ v.Opens then 1 else 0 := by
  by_cases hfound : v.handle ∈ found
  · rw [outcome_of_found hfound, countP_isHistory_served, if_pos (.inl hfound)]
  · rcases v.opens_or_error with hopens | ⟨reason, herror⟩
    · rw [outcome_of_first hopens hfound, if_pos (.inr hopens)]
      exact countP_isHistory_served v
    · rw [outcome_of_error herror hfound, if_neg (not_or.mpr ⟨hfound, not_opens herror⟩)]
      rfl

/-- The table at a path is looked up in a visit, and it is found. -/
def Finds (path : String) (r : Visit × Outcome) : Prop :=
  0 < r.2.calls.countP (Call.looksUp path) ∧ r.1.Opens

instance (path : String) : DecidablePred (Finds path) := fun _ => inferInstanceAs (Decidable (_ ∧ _))

theorem finds_iff {path : String} {v : Visit} {found : List Handle} :
    Finds path (v, v.outcome found) ↔ (path = v.path ∧ v.handle ∉ found) ∧ v.Opens := by
  unfold Finds
  rw [countP_looksUp]
  refine and_congr_left fun _ => ?_
  split
  next h => exact iff_of_true Nat.one_pos h
  next h => exact iff_of_false (Nat.lt_irrefl 0) h

/-- A table is found at most once, and not at all where it was found before. -/
theorem countP_finds_le (path : String) (found : List Handle) (visits : List Visit) :
    (visits.zip (outcomes found visits)).countP (Finds path) ≤ if ⟨path⟩ ∈ found then 0 else 1 := by
  induction visits generalizing found with
  | nil => exact Nat.zero_le _
  | cons v rest ih =>
    have hrest := ih (v.learn found)
    rw [outcomes, List.zip_cons_cons, List.countP_cons]
    simp only [decide_eq_true_eq, finds_iff]
    by_cases hfirst : (path = v.path ∧ v.handle ∉ found) ∧ v.Opens
    · obtain ⟨⟨rfl, hnew⟩, hopens⟩ := hfirst
      have hlearn : v.handle ∈ v.learn found := mem_learn.mpr (.inr ⟨rfl, hopens⟩)
      rw [if_pos ⟨⟨rfl, hnew⟩, hopens⟩]
      rw [handle] at hlearn hnew
      rw [if_pos hlearn] at hrest
      rw [if_neg hnew]
      omega
    · have hlearn : ⟨path⟩ ∈ v.learn found ↔ ⟨path⟩ ∈ found := by
        rw [mem_learn, or_iff_left_iff_imp]
        rintro ⟨hpath, hopens⟩
        obtain rfl := Handle.mk.inj hpath
        by_contra hnew
        exact hfirst ⟨⟨rfl, hnew⟩, hopens⟩
      rw [if_neg hfirst]
      simpa only [hlearn, Nat.add_zero] using hrest

/-- What is seen of a visit that comes after others. Where its table has been found before or can be found now, the
query sees the versions of its history as it is now, in ascending order, and fails only as the history fails to be
read; it reads the history once. Anywhere else the query fails as the table fails to be found. The table is looked up
unless that has succeeded before. -/
structure Serves (before : List Visit) (v : Visit) (o : Outcome) : Prop where
  sees : Resolved before v.path ∨ v.Opens →
    (∀ entries, v.history = .ok entries → ∃ seen : List Int, seen.Perm (entries.map (·.version)) ∧
      seen.Pairwise (· ≤ ·) ∧ o.answer = v.query.conclude seen) ∧
    ∀ reason, v.history = .error reason → o.answer = .error (.engine reason)
  fails : ¬ (Resolved before v.path ∨ v.Opens) →
    ∃ reason, v.catalog.opened v.path = .error reason ∧
      o.answer = .error (.resolution (.tableUnreadable v.path reason))
  lookups : ∀ path, (Resolved before path ∨ path ≠ v.path → o.calls.countP (Call.looksUp path) = 0) ∧
    (¬ Resolved before path → path = v.path → o.calls.countP (Call.looksUp path) = 1)
  histories : (Resolved before v.path ∨ v.Opens → o.calls.countP Call.isHistory = 1) ∧
    (¬ (Resolved before v.path ∨ v.Opens) → o.calls.countP Call.isHistory = 0)

theorem answer_outcome {v : Visit} {found : List Handle} (h : v.handle ∈ found ∨ v.Opens) :
    (v.outcome found).answer = v.served.answer := by
  by_cases hfound : v.handle ∈ found
  · rw [outcome_of_found hfound]
  · rw [outcome_of_first (h.resolve_left hfound) hfound]

theorem serves_outcome {before : List Visit} {v : Visit} {found : List Handle}
    (hfound : v.handle ∈ found ↔ Resolved before v.path) : Serves before v (v.outcome found) where
  sees hcase := by
    rw [← hfound] at hcase
    refine ⟨fun entries hhistory => ?_, fun reason hhistory => ?_⟩
    · refine ⟨_, Version.ascending_perm _, Version.pairwise_ascending _, ?_⟩
      rw [answer_outcome hcase, served_of_ok hhistory]
    · rw [answer_outcome hcase, served_of_error hhistory]
  fails hcase := by
    rw [← hfound, not_or] at hcase
    obtain ⟨reason, herror⟩ := v.opens_or_error.resolve_left hcase.2
    exact ⟨reason, herror, by rw [outcome_of_error herror hcase.1]⟩
  lookups path := by
    rw [countP_looksUp]
    constructor
    · rintro (hresolved | hother)
      · refine if_neg ?_
        rintro ⟨rfl, hnew⟩
        exact hnew (hfound.mpr hresolved)
      · exact if_neg fun h => hother h.1
    · rintro hnew rfl
      exact if_pos ⟨rfl, mt hfound.mp hnew⟩
  histories := by
    rw [countP_isHistory, ← hfound]
    exact ⟨fun h => if_pos h, fun h => if_neg h⟩

/-- Over any visits to a new change log, as tables come and go, each query whose table has been found or can be found
sees what its history lists at that moment, and what comes of the visits to one path is what would come of them alone.
A visit that finds no table fails and changes nothing for the others. The table at a path is looked up at each visit
until it has been found, which happens once at most. -/
theorem runAll_transparent (visits : List Visit) {scene : Scene Engine} (hnew : scene.world.found = []) :
    let outcomes := (runAll commitColumn visits scene).1
    outcomes.length = visits.length ∧
      (runAll commitColumn visits scene).2.world.calls = scene.world.calls ++ outcomes.flatMap (·.calls) ∧
      (∀ before v later, visits = before ++ v :: later →
        (∃ o, outcomes[before.length]? = some o ∧ Serves before v o) ∧
          (¬ (Resolved before v.path ∨ v.Opens) →
            (runAll commitColumn (before ++ later) scene).1 = outcomes.eraseIdx before.length)) ∧
      (∀ path, ((visits.zip outcomes).filter fun r => r.1.path = path).map (·.2) =
        (runAll commitColumn (visits.filter fun v => v.path = path) scene).1) ∧
      ∀ path, (visits.zip outcomes).countP (Finds path) ≤ 1 := by
  intro outcomes
  have hrun (visits : List Visit) : (runAll commitColumn visits scene).1 = Visit.outcomes [] visits := by
    rw [(runAll_outcomes commitColumn visits scene).1, hnew]
  have houtcomes : outcomes = Visit.outcomes [] visits := hrun visits
  refine ⟨?_, ?_, ?_, ?_, ?_⟩
  · rw [houtcomes, length_outcomes]
  · rw [houtcomes, (runAll_outcomes commitColumn visits scene).2, hnew]
  · rintro before v later rfl
    rw [houtcomes, hrun]
    constructor
    · have hfound : v.handle ∈ before.foldl learn [] ↔ Resolved before v.path := by
        rw [handle, mem_foldl_learn, or_iff_right List.not_mem_nil]
      refine ⟨v.outcome (before.foldl learn []), ?_, serves_outcome hfound⟩
      rw [outcomes_append, List.getElem?_append_right (length_outcomes [] before).le, length_outcomes, Nat.sub_self,
        Visit.outcomes, List.getElem?_cons_zero]
    · intro hcase
      exact (outcomes_eraseIdx [] fun hopens => hcase (.inr hopens)).symm
  · intro path
    rw [houtcomes, hrun]
    exact outcomes_filter Iff.rfl visits
  · intro path
    rw [houtcomes]
    exact countP_finds_le path [] visits

/-- The history of a table that these versions were written to. -/
def written (versions : List Int) : LakeTable := ⟨.ok (versions.map fun v => ⟨v, "now", "WRITE", none⟩), [], none⟩

/-- A table that is not there at first. It is found, and then no look-up would find it any more, while its first version
is dropped as another one is written. In the end its history cannot be read. -/
def changingLake : List Visit :=
  [⟨{}, .versions "lake"⟩,
    ⟨{ tables := [("lake", written [1, 0])] }, .range "lake" .null 5 none⟩,
    ⟨{ tables := [("lake", written [2, 1])], refused := [("lake", "no access")] }, .versions "lake"⟩,
    ⟨{ tables := [("lake", ⟨.error "no log", [], none⟩)] }, .versions "lake"⟩]

/-- The third visit sees the versions as they are then, without looking the table up, which would fail. -/
theorem runAll_transparent_changingLake :
    (Scene.start ({} : Engine)).world.found = [] ∧
      ∃ first third last seen, (runAll "_commit_version" changingLake (Scene.start {})).1[0]? = some first ∧
        (runAll "_commit_version" changingLake (Scene.start {})).1[2]? = some third ∧
        (runAll "_commit_version" changingLake (Scene.start {})).1[3]? = some last ∧
        first.answer = .error (.resolution (.tableUnreadable "lake" "lake is not a Delta table")) ∧
        first.calls.countP (Call.looksUp "lake") = 1 ∧ seen.Perm [2, 1] ∧ seen.Pairwise (· ≤ ·) ∧
        third.answer = .ok (.versions seen) ∧ third.calls.countP (Call.looksUp "lake") = 0 ∧
        third.calls.countP Call.isHistory = 1 ∧ last.answer = .error (.engine "no log") := by
  have hnew : (Scene.start ({} : Engine)).world.found = [] := rfl
  obtain ⟨-, -, hvisit, -⟩ := runAll_transparent "_commit_version" changingLake hnew
  obtain ⟨⟨first, hfirst, hfails⟩, -⟩ := hvisit [] _ (changingLake.drop 1) rfl
  obtain ⟨⟨third, hthird, hserves⟩, -⟩ := hvisit (changingLake.take 2) _ (changingLake.drop 3) rfl
  obtain ⟨⟨last, hlast, hspoiled⟩, -⟩ := hvisit (changingLake.take 3) _ [] rfl
  -- The table was found at the second visit.
  have hfound (n : Nat) : Resolved (changingLake.take (n + 2)) "lake" := ⟨_, .tail _ (.head _), rfl, rfl⟩
  have hmissing : ¬ (Resolved [] "lake" ∨ (⟨{}, .versions "lake"⟩ : Visit).Opens) := by
    simp [Resolved, Opens, Catalog.opened, Keyed.get?, Visit.path, Query.path]
  obtain ⟨reason, hreason, hunreadable⟩ := hfails.fails hmissing
  cases hreason
  obtain ⟨seen, hperm, hordered, hanswer⟩ := (hserves.sees (.inl (hfound 0))).1 _ rfl
  exact ⟨hnew, first, third, last, seen, hfirst, hthird, hlast, hunreadable,
    (hfails.lookups "lake").2 (by simp [Resolved]) rfl, hperm, hordered, hanswer,
    (hserves.lookups "lake").1 (.inl (hfound 0)), hserves.histories.1 (.inl (hfound 0)),
    (hspoiled.sees (.inl (hfound 1))).2 _ rfl⟩

end Visit

end ObjectIntake.Lakehouse
