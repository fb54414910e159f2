import ObjectIntake.Proofs.Fetch.Pipeline

/-!
A consumer of a change log in memory. Each of its fetches goes on from the checkpoint of the last one that
succeeded, while rows are committed, old versions are dropped, and the fetch size and the probe change.
-/
namespace ObjectIntake
open Settings Event ObjectPath Checkpoint Memory Dataset

/-- A fetch that succeeded: what its checkpoint resolved to, what it handed out, and the site before and after. -/
structure Delivery where
  resolved : Resolved
  batch : Batch Table
  /-- What a read of the range gives where the fetch starts. -/
  read : Except Failure (List Row)
  before : Site
  after : Site

namespace Delivery

def range (d : Delivery) : VersionRange := d.resolved.range

theorem getElem?_ranges {ds : List Delivery} {i : Nat} {d : Delivery} (h : ds[i]? = some d) :
    (ds.map range)[i]? = some d.range := by
  rw [List.getElem?_map, h, Option.map_some]

theorem getLast?_ranges {ds : List Delivery} {d : Delivery} (h : ds.getLast? = some d) :
    (ds.map range).getLast? = some d.range := by
  rw [List.getLast?_map, h, Option.map_some]

theorem exists_holds_ranges {ds : List Delivery} {v : Int} :
    (∃ r ∈ ds.map range, r.holds v = true) ↔ ∃ d ∈ ds, d.range.holds v = true := by
  simp only [List.mem_map, exists_exists_and_eq_and]

end Delivery

structure Consumer where
  live : LiveSettings
  /-- The checkpoint of the last fetch that succeeded. -/
  last : Json
  scene : Scene Site
  deliveries : List Delivery

namespace Consumer

inductive Action where
  | commit (rows : List Row)
  | retain (least : Int)
  | resize (count : Int)
  | reprobe (probe : Probe)
  | resolve (last : Json)
  | fetch (limit : Json)

/-- A consumer that has fetched nothing yet. -/
def start (live : LiveSettings) (last : Json) (scene : Scene Site) : Consumer := ⟨live, last, scene, []⟩

def site (c : Consumer) : Site := c.scene.world

def onSite (c : Consumer) (f : Site → Site) : Consumer :=
  { c with scene := { c.scene with world := f c.scene.world } }

def fetch (source : Source Site (List Row) Table) (c : Consumer) (limit : Json) : Consumer :=
  let resolving := (source.resolve c.live c.last).runIn c.scene
  let fetching := (source.fetch c.live c.last limit).runIn c.scene
  let reading (r : Resolved) := (source.platform.read r.mode (c.live.basePath.getD "") r.range).runIn c.scene
  match fetching.1, resolving.1 with
  | .ok batch, .ok resolved =>
      { c with
        last := .str batch.token
        scene := fetching.2
        deliveries := c.deliveries ++ [⟨resolved, batch, (reading resolved).1, c.scene.world, fetching.2.world⟩] }
  | .ok batch, .error _ => { c with last := .str batch.token, scene := fetching.2 }
  | .error _, _ => { c with scene := fetching.2 }

def step (source : Source Site (List Row) Table) (c : Consumer) : Action → Consumer
  | .commit rows => c.onSite fun site => { site with log := site.log.commit rows }
  | .retain least => c.onSite fun site => { site with log := site.log.retain least }
  | .resize count => { c with live := c.live.put .fetchSize (.int count) }
  | .reprobe probe => c.onSite fun site => { site with probe := probe }
  | .resolve last => { c with scene := ((source.resolve c.live last).runIn c.scene).2 }
  | .fetch limit => c.fetch source limit

def run (source : Source Site (List Row) Table) (c : Consumer) (actions : List Action) : Consumer :=
  actions.foldl (step source) c

/-- The fetch that leads from one state to the next delivers. -/
structure Delivers (source : Source Site (List Row) Table) (answers : Probe → String → Presence)
    (c : Consumer) (d : Delivery) (next : Consumer) : Prop where
  resolved : resolution c.site.log.versions c.live c.last = .ok d.resolved
  token : d.batch.token = d.resolved.token
  read : d.read = .ok (c.site.log.rows d.range)
  before : d.before = c.site
  after : d.after = next.site
  site : ∃ asked loads, next.site = { c.site with
      reads := c.site.reads ++ if d.range.caughtUp then [] else [(d.resolved.mode, d.range)]
      probed := c.site.probed ++ asked
      loaded := c.site.loaded ++ loads } ∧
    ∀ path, path ∈ loads.flatten ↔ source.Brings (answers c.site.probe) (c.site.log.rows d.range) path
  live : next.live = c.live
  last : next.last = .str d.batch.token
  deliveries : next.deliveries = c.deliveries ++ [d]

/-- The fetch that leads from one state to the next fails, and the next one will start where it started. -/
structure Fails (c next : Consumer) : Prop where
  log : next.site.log = c.site.log
  probe : next.site.probe = c.site.probe
  live : next.live = c.live
  last : next.last = c.last
  deliveries : next.deliveries = c.deliveries

variable {source : Source Site (List Row) Table} {answers : Probe → String → Presence}

/-- A fetch whose checkpoint resolves, and of whose range a batch comes, delivers it. -/
theorem fetch_delivers (h : source.InMemory answers) (c : Consumer) {limit : Json} (hlimit : limit.isWritable = true)
    {resolved : Resolved} {batch : Batch Table}
    (hresolved : resolution c.site.log.versions c.live c.last = .ok resolved)
    (hbatch : (source.outcome answers c.live resolved c.site).1 = .ok batch) :
    c.Delivers source answers
      ⟨resolved, batch, .ok (c.site.log.rows resolved.range), c.site, (c.fetch source limit).site⟩
      (c.fetch source limit) := by
  obtain ⟨hresolving, -⟩ := h.resolve_gives c.live c.last c.site c.scene rfl
  obtain ⟨hfetching, hafter⟩ := h.fetch_gives c.live c.last limit c.site c.scene rfl
  obtain ⟨asked, loads, hsite, hspec⟩ := source.outcome_spec answers c.live resolved c.site
  have hreading : ((source.platform.read resolved.mode (c.live.basePath.getD "") resolved.range).runIn c.scene).1 =
      .ok (c.site.log.rows resolved.range) := by
    rw [h.platform]
    exact (read_gives resolved.mode (c.live.basePath.getD "") resolved.range c.site).result_eq rfl
  rw [hresolved] at hresolving
  rw [Source.fetched, if_pos (by rw [checkpoint_isWritable hresolved, hlimit]; rfl), hresolved] at hfetching hafter
  dsimp only at hfetching hafter
  rw [hbatch] at hfetching
  rw [hsite] at hafter
  obtain ⟨htoken, hloads⟩ := hspec batch hbatch
  have hfetch : c.fetch source limit = ⟨c.live, .str batch.token,
      ((source.fetch c.live c.last limit).runIn c.scene).2,
      c.deliveries ++ [⟨resolved, batch, .ok (c.site.log.rows resolved.range), c.site,
        ((source.fetch c.live c.last limit).runIn c.scene).2.world⟩]⟩ := by
    unfold fetch
    dsimp only
    rw [hfetching, hresolving]
    dsimp only
    rw [hreading]
    rfl
  rw [hfetch]
  exact ⟨hresolved, htoken, rfl, rfl, rfl, ⟨asked, loads, hafter, hloads⟩, rfl, rfl, rfl⟩

/-- Any other fetch fails. -/
theorem fetch_fails (h : source.InMemory answers) (c : Consumer) (limit : Json) {failure : Failure}
    (hfailure : (source.fetched answers c.live c.last limit c.site).1 = .error failure) :
    c.Fails (c.fetch source limit) := by
  obtain ⟨hfetching, hafter⟩ := h.fetch_gives c.live c.last limit c.site c.scene rfl
  rw [hfailure] at hfetching
  have hfetch : c.fetch source limit = ⟨c.live, c.last,
      ((source.fetch c.live c.last limit).runIn c.scene).2, c.deliveries⟩ := by
    unfold fetch
    dsimp only
    rw [hfetching]
  have hkept : (source.fetched answers c.live c.last limit c.site).2.log = c.site.log ∧
      (source.fetched answers c.live c.last limit c.site).2.probe = c.site.probe := by
    unfold Source.fetched
    split
    next =>
      split
      next => exact ⟨rfl, rfl⟩
      next resolved _ =>
        obtain ⟨_, _, hsite, -⟩ := source.outcome_spec answers c.live resolved c.site
        rw [hsite]
        exact ⟨rfl, rfl⟩
    next => exact ⟨rfl, rfl⟩
  rw [hfetch]
  exact ⟨(congrArg Site.log hafter).trans hkept.1, (congrArg Site.probe hafter).trans hkept.2,
    rfl, rfl, rfl⟩

/-- What a fetch hands out is delivered. -/
theorem fetch_of_ok (h : source.InMemory answers) (c : Consumer) (limit : Json) {batch : Batch Table}
    (hok : ((source.fetch c.live c.last limit).runIn c.scene).1 = .ok batch) :
    ∃ d, d.batch = batch ∧ c.Delivers source answers d (c.fetch source limit) := by
  rw [(h.fetch_gives c.live c.last limit c.site).result_eq rfl, Source.fetched] at hok
  split at hok
  next hwritable =>
    split at hok
    next => cases hok
    next resolved hresolved => exact ⟨_, rfl, fetch_delivers h c (Bool.and_eq_true_iff.mp hwritable).2 hresolved hok⟩
  next => cases hok

/-- A fetch delivers or fails. -/
theorem fetch_cases (h : source.InMemory answers) (c : Consumer) (limit : Json) :
    (∃ d, c.Delivers source answers d (c.fetch source limit)) ∨ c.Fails (c.fetch source limit) := by
  have hresult : ((source.fetch c.live c.last limit).runIn c.scene).1 = _ :=
    (h.fetch_gives c.live c.last limit c.site).result_eq rfl
  cases hfetched : (source.fetched answers c.live c.last limit c.site).1 with
  | error failure => exact Or.inr (fetch_fails h c limit hfetched)
  | ok batch =>
    obtain ⟨d, -, hd⟩ := fetch_of_ok h c limit (hresult.trans hfetched)
    exact Or.inl ⟨d, hd⟩

namespace Delivers

variable {c next : Consumer} {d : Delivery}

theorem log_eq (h : c.Delivers source answers d next) : next.site.log = c.site.log := by
  obtain ⟨_, _, hsite, -⟩ := h.site
  rw [hsite]

theorem probe_eq (h : c.Delivers source answers d next) : next.site.probe = c.site.probe := by
  obtain ⟨_, _, hsite, -⟩ := h.site
  rw [hsite]

theorem reads_eq (h : c.Delivers source answers d next) :
    d.after.reads = d.before.reads ++ if d.range.caughtUp then [] else [(d.resolved.mode, d.range)] := by
  obtain ⟨_, _, hsite, -⟩ := h.site
  rw [h.after, h.before, hsite]

/-- What the fetch loads is what the rows that it reads bring. -/
theorem loads_eq (h : c.Delivers source answers d next) : ∃ rows loads, d.read = .ok rows ∧
    d.after.loaded = d.before.loaded ++ loads ∧
    ∀ path, path ∈ loads.flatten ↔ source.Brings (answers d.before.probe) rows path := by
  obtain ⟨_, loads, hsite, hloads⟩ := h.site
  refine ⟨_, loads, h.read, ?_, ?_⟩
  · rw [h.after, h.before, hsite]
  · rw [h.before]
    exact hloads

theorem one_le_fetchSize (h : c.Delivers source answers d next) : 1 ≤ c.live.fetchSize :=
  (resolution_eq_ok.mp h.resolved).2.2.1

/-- The token that is handed out is that of the end of the range. -/
theorem format_upper (h : c.Delivers source answers d next) :
    format d.range.upper = .ok d.batch.token := by
  obtain ⟨-, -, -, lower, plan, -, -, -, -, hrange, htoken, -⟩ := resolution_eq_ok.mp h.resolved
  rw [h.token, Delivery.range, ← hrange]
  exact htoken

/-- The range starts at the checkpoint, or as the strategy says where there is none. -/
theorem range_cases (h : c.Delivers source answers d next) :
    (∃ v, startOf (normalize c.last) = .ok (some v) ∧
        d.range = ⟨v, Version.upperAfter c.site.log.versions c.live.fetchSize v⟩) ∨
      startOf (normalize c.last) = .ok none ∧ ∃ newest s,
        strategy c.live.toSourceSettings = some s ∧ newest ∈ c.site.log.versions ∧
          (∀ v ∈ c.site.log.versions, v ≤ newest) ∧ d.range = (Version.planAfresh newest s).range := by
  obtain ⟨-, -, -, lower, plan, hlower, -, hplan, -, hrange, -⟩ := resolution_eq_ok.mp h.resolved
  rw [Delivery.range, ← hrange, hlower]
  obtain ⟨-, hcases⟩ := Version.plan_ok hplan
  rcases hcases with ⟨v, rfl, hafter⟩ | ⟨newest, s, rfl, hs, hmem, hmax, rfl⟩
  · left
    rw [Log.versions, Version.ascending_ascending] at hafter
    exact ⟨v, rfl, hafter⟩
  · right
    exact ⟨rfl, newest, s, hs, hmem, hmax, rfl⟩

end Delivers

theorem site_resolve (h : source.InMemory answers) (c : Consumer) (last : Json) :
    (c.step source (.resolve last)).site = c.site :=
  (h.resolve_gives c.live last c.site).world_eq rfl

end Consumer
end ObjectIntake
