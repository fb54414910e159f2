import ObjectIntake.Proofs.Fetch.Consumer
import ObjectIntake.Proofs.Version.Backlog

/-!
Fetching until nothing is left. A drain ends at the same checkpoint and loads the same paths, in whatever
portions it takes the versions of the log.
-/
namespace ObjectIntake
open Settings Event ObjectPath Checkpoint Memory Dataset

namespace Checkpoint

/-- Where a range begins does not depend on the fetch size. -/
theorem lower_eq_of_resolution {versions : List Int} {s t : LiveSettings} {last : Json} {q r : Resolved}
    (hs : resolution versions s last = .ok q) (ht : resolution versions t last = .ok r)
    (hstrategy : strategy s.toSourceSettings = strategy t.toSourceSettings) :
    q.range.lower = r.range.lower := by
  obtain ⟨-, -, -, lower, plan, hlower, -, hplan, -, hrange, -⟩ := resolution_eq_ok.mp hs
  obtain ⟨-, -, -, lower', plan', hlower', -, hplan', -, hrange', -⟩ := resolution_eq_ok.mp ht
  rw [hlower, Except.ok.injEq] at hlower'
  rw [← hrange, ← hrange']
  obtain ⟨-, hcases⟩ := Version.plan_ok hplan
  obtain ⟨-, hcases'⟩ := Version.plan_ok hplan'
  rcases hcases with ⟨v, rfl, h⟩ | ⟨newest, chosen, rfl, hchosen, hmem, hmax, rfl⟩
  · rcases hcases' with ⟨v', rfl, h'⟩ | ⟨_, _, rfl, -⟩
    · cases hlower'
      rw [h, h']
    · cases hlower'
  · rcases hcases' with ⟨v', rfl, h'⟩ | ⟨newest', chosen', -, hchosen', hmem', hmax', rfl⟩
    · cases hlower'
    · have hnewest : newest = newest' := Int.le_antisymm (hmax' _ hmem) (hmax _ hmem')
      rw [hstrategy, hchosen', Option.some.injEq] at hchosen
      rw [hnewest, hchosen]

end Checkpoint

namespace Consumer

/-- Fetches one after the other, each with a size of its own. -/
def drain (fetches : List (Int × Json)) : List Action :=
  fetches.flatMap fun f => [.resize f.1, .fetch f.2]

def resized (c : Consumer) (count : Int) : Consumer := { c with live := c.live.put .fetchSize (.int count) }

variable {source : Source Site (List Row) Table} {answers : Probe → String → Presence}

theorem run_drain_cons (c : Consumer) (f : Int × Json) (fetches : List (Int × Json)) :
    c.run source (drain (f :: fetches)) = ((c.resized f.1).fetch source f.2).run source (drain fetches) :=
  rfl

theorem run_drain_append (c : Consumer) (fetches more : List (Int × Json)) :
    c.run source (drain (fetches ++ more)) = (c.run source (drain fetches)).run source (drain more) := by
  rw [drain, List.flatMap_append, run, List.foldl_append]
  rfl

/-- All the fetches deliver, one after the other. -/
inductive Drained (source : Source Site (List Row) Table) (answers : Probe → String → Presence) :
    Consumer → List (Int × Json) → List Delivery → Prop
  | done (c : Consumer) : Drained source answers c [] []
  | more {c : Consumer} {f : Int × Json} {fetches : List (Int × Json)} {d : Delivery} {ds : List Delivery}
      (delivers : (c.resized f.1).Delivers source answers d ((c.resized f.1).fetch source f.2))
      (rest : Drained source answers ((c.resized f.1).fetch source f.2) fetches ds) :
      Drained source answers c (f :: fetches) (d :: ds)

theorem length_run_drain_le (h : source.InMemory answers) (c : Consumer) (fetches : List (Int × Json)) :
    (c.run source (drain fetches)).deliveries.length ≤ c.deliveries.length + fetches.length := by
  induction fetches generalizing c with
  | nil => exact Nat.le_refl _
  | cons f fetches ih =>
    have hrest := ih ((c.resized f.1).fetch source f.2)
    rw [run_drain_cons, List.length_cons]
    have hone : ((c.resized f.1).fetch source f.2).deliveries.length ≤ c.deliveries.length + 1 := by
      rcases fetch_cases h (c.resized f.1) f.2 with ⟨d, hd⟩ | hfails
      · rw [hd.deliveries, List.length_append]
        exact Nat.le_refl _
      · rw [hfails.deliveries]
        exact Nat.le_succ _
    omega

/-- Where there are as many deliveries as fetches, none has failed. -/
theorem drained_of_length (h : source.InMemory answers) {c : Consumer} {fetches : List (Int × Json)}
    (hall : (c.run source (drain fetches)).deliveries.length = c.deliveries.length + fetches.length) :
    ∃ ds, Drained source answers c fetches ds := by
  induction fetches generalizing c with
  | nil => exact ⟨[], .done c⟩
  | cons f fetches ih =>
    rw [run_drain_cons, List.length_cons] at hall
    have hle := length_run_drain_le h ((c.resized f.1).fetch source f.2) fetches
    rcases fetch_cases h (c.resized f.1) f.2 with ⟨d, hd⟩ | hfails
    · have hlength : ((c.resized f.1).fetch source f.2).deliveries.length = c.deliveries.length + 1 := by
        rw [hd.deliveries, List.length_append]
        rfl
      obtain ⟨ds, hds⟩ := ih (c := (c.resized f.1).fetch source f.2) (by omega)
      exact ⟨d :: ds, .more hd hds⟩
    · have hlength : ((c.resized f.1).fetch source f.2).deliveries.length = c.deliveries.length := by
        rw [hfails.deliveries]
        rfl
      omega

theorem Delivers.startOf_last {c next : Consumer} {d : Delivery} (h : c.Delivers source answers d next) :
    startOf (normalize next.last) = .ok (some d.range.upper) := by
  rw [h.last]
  exact startOf_format h.format_upper

theorem Delivers.range_of_start {c next : Consumer} {d : Delivery} (h : c.Delivers source answers d next)
    {v : Int} (hstart : startOf (normalize c.last) = .ok (some v)) :
    d.range = ⟨v, Version.upperAfter c.site.log.versions c.live.fetchSize v⟩ := by
  rcases h.range_cases with ⟨w, hw, hrange⟩ | ⟨hnone, -⟩
  · rw [hstart] at hw
    cases hw
    exact hrange
  · rw [hstart] at hnone
    cases hnone

/-- No version is below the first range of a consumer that reads everything. -/
theorem Delivers.advances {c next : Consumer} {d : Delivery} (h : c.Delivers source answers d next)
    (hversions : ∀ v ∈ c.site.log.versions, 0 ≤ v) :
    Version.Advances c.site.log.versions d.range.lower d.range.upper := by
  rcases h.range_cases with ⟨v, -, hrange⟩ | ⟨-, newest, s, -, hmem, hmax, hrange⟩
  · rw [hrange]
    exact Version.advances_upperAfter h.one_le_fetchSize
  · rw [hrange]
    cases s with
    | latest => exact Or.inl ⟨Version.above_eq_nil.mpr hmax, rfl⟩
    | uptoLatest =>
      have hnonneg := hversions newest hmem
      exact Or.inr (Version.mem_above.mpr ⟨hmem, show (-1 : Int) < newest by omega⟩)

namespace Drained

variable {c : Consumer} {fetches : List (Int × Json)} {ds : List Delivery}

theorem deliveries_eq (h : Drained source answers c fetches ds) :
    (c.run source (drain fetches)).deliveries = c.deliveries ++ ds := by
  induction h with
  | done c => exact (List.append_nil _).symm
  | more hd _ ih =>
    rw [run_drain_cons, ih, hd.deliveries, List.append_assoc]
    rfl

theorem length_eq (h : Drained source answers c fetches ds) : ds.length = fetches.length := by
  induction h with
  | done c => rfl
  | more _ _ ih => rw [List.length_cons, List.length_cons, ih]

theorem site_eq (h : Drained source answers c fetches ds) :
    (c.run source (drain fetches)).site.log = c.site.log ∧
      (c.run source (drain fetches)).site.probe = c.site.probe := by
  induction h with
  | done c => exact ⟨rfl, rfl⟩
  | more hd _ ih =>
    obtain ⟨hlog, hprobe⟩ := ih
    rw [run_drain_cons]
    exact ⟨hlog.trans hd.log_eq, hprobe.trans hd.probe_eq⟩

theorem last_eq (h : Drained source answers c fetches ds) {d : Delivery} (hd : ds.getLast? = some d) :
    (c.run source (drain fetches)).last = .str d.batch.token ∧
      format d.range.upper = .ok d.batch.token := by
  induction h with
  | done c => cases hd
  | @more c f fetches e ds he hrest ih =>
    rw [run_drain_cons]
    cases ds with
    | nil =>
      cases hd
      cases hrest
      exact ⟨he.last, he.format_upper⟩
    | cons e' ds =>
      rw [List.getLast?_cons_cons] at hd
      exact ih hd

theorem format_upper (h : Drained source answers c fetches ds) {d : Delivery} (hd : d ∈ ds) :
    format d.range.upper = .ok d.batch.token := by
  induction h with
  | done c => exact absurd hd List.not_mem_nil
  | more he _ ih =>
    rcases List.mem_cons.mp hd with rfl | hd
    · exact he.format_upper
    · exact ih hd

/-- Ranges with the same end hand out the same token. -/
theorem token_eq (h : Drained source answers c fetches ds) {d e : Delivery} (hd : d ∈ ds) (he : e ∈ ds)
    (hupper : d.range.upper = e.range.upper) : d.batch.token = e.batch.token := by
  have hformat := h.format_upper hd
  rw [hupper, h.format_upper he, Except.ok.injEq] at hformat
  exact hformat.symm

/-- What a drain loads is what the rows of its ranges bring. -/
theorem loads (h : Drained source answers c fetches ds) :
    ∃ loads, (c.run source (drain fetches)).site.loaded = c.site.loaded ++ loads ∧
      ∀ path, path ∈ loads.flatten ↔
        ∃ d ∈ ds, source.Brings (answers c.site.probe) (c.site.log.rows d.range) path := by
  induction h with
  | done c =>
    refine ⟨[], (List.append_nil _).symm, fun path => ?_⟩
    simp only [List.flatten_nil, List.not_mem_nil, false_and, exists_false]
  | @more c f fetches d ds hd hrest ih =>
    obtain ⟨later, hlater, hmem⟩ := ih
    obtain ⟨_, loads, hsite, hbrings⟩ := hd.site
    refine ⟨loads ++ later, ?_, fun path => ?_⟩
    · rw [run_drain_cons, hlater, hsite, ← List.append_assoc]
      rfl
    · rw [List.flatten_append, List.mem_append, hbrings, hmem, hd.log_eq, hd.probe_eq]
      simp only [List.mem_cons, or_and_right, exists_or, exists_eq_left]
      exact Iff.rfl

theorem lower_head (h : Drained source answers c fetches ds) {v : Int}
    (hstart : startOf (normalize c.last) = .ok (some v)) {d : Delivery} (hd : ds.head? = some d) :
    d.range.lower = v := by
  cases h with
  | done => cases hd
  | more hfirst _ =>
    cases hd
    rw [hfirst.range_of_start hstart]

/-- The ranges of a drain work off the listed versions. -/
theorem worksOff (h : Drained source answers c fetches ds)
    (hversions : ∀ v ∈ c.site.log.versions, 0 ≤ v) (lower : Int)
    (hlower : ∀ d, ds.head? = some d → d.range.lower = lower) :
    Version.WorksOff c.site.log.versions lower (ds.map Delivery.range) := by
  induction h generalizing lower with
  | done c => exact trivial
  | more hd hrest ih =>
    have hfirst := hlower _ rfl
    have hlog := hd.log_eq
    rw [hlog] at ih
    refine ⟨hfirst, ?_, ih hversions _ fun e he => hrest.lower_head hd.startOf_last he⟩
    rw [← hfirst]
    exact hd.advances hversions

/-- From a checkpoint, and with one size for all fetches, each range takes that many versions. -/
theorem upper_eq (h : Drained source answers c fetches ds) {v : Int}
    (hstart : startOf (normalize c.last) = .ok (some v)) {count : Int}
    (hcount : ∀ f ∈ fetches, f.1 = count) {r : VersionRange} (hr : r ∈ ds.map Delivery.range) :
    r.upper = Version.upperAfter c.site.log.versions count r.lower := by
  induction h generalizing v with
  | done c => exact absurd hr List.not_mem_nil
  | @more c f fetches d ds hd hrest ih =>
    rw [List.map_cons, List.mem_cons] at hr
    rcases hr with rfl | hr
    · have hsize : (c.resized f.1).live.fetchSize = count := hcount f (List.mem_cons_self ..)
      rw [hd.range_of_start hstart, hsize]
      rfl
    · have hlater := ih hd.startOf_last (fun g hg => hcount g (List.mem_cons_of_mem _ hg)) hr
      rw [hd.log_eq] at hlater
      exact hlater

end Drained

/-- The rows of all ranges together are those of one range, from the first beginning to the last end. -/
theorem brings_iff {listed : List Int} {lower : Int} {ds : List Delivery}
    (hworks : Version.WorksOff listed lower (ds.map Delivery.range)) {last : Delivery}
    (hlast : ds.getLast? = some last) (log : Log) (presence : String → Presence) (path : String) :
    (∃ d ∈ ds, source.Brings presence (log.rows d.range) path) ↔
      source.Brings presence (log.rows ⟨lower, last.range.upper⟩) path := by
  have hholds (v : Int) : (∃ d ∈ ds, d.range.holds v = true) ↔
      (⟨lower, last.range.upper⟩ : VersionRange).holds v = true := by
    rw [VersionRange.holds_iff, ← hworks.exists_holds_iff (Delivery.getLast?_ranges hlast)]
    exact Delivery.exists_holds_ranges.symm
  have hrows (r : Row) : (∃ d ∈ ds, r ∈ log.rows d.range) ↔
      r ∈ log.rows ⟨lower, last.range.upper⟩ := by
    simp only [Log.mem_rows, ← hholds]
    constructor
    · rintro ⟨d, hd, commit, hcommit, hv, hr⟩
      exact ⟨commit, hcommit, ⟨d, hd, hv⟩, hr⟩
    · rintro ⟨commit, hcommit, ⟨d, hd, hv⟩, hr⟩
      exact ⟨d, hd, commit, hcommit, hv, hr⟩
  constructor
  · rintro ⟨d, hd, r, hr, hbrings⟩
    exact ⟨r, (hrows r).mp ⟨d, hd, hr⟩, hbrings⟩
  · rintro ⟨r, hr, hbrings⟩
    obtain ⟨d, hd, hin⟩ := (hrows r).mpr hr
    exact ⟨d, hd, r, hin, hbrings⟩

/-- With another fetch size the versions that follow a checkpoint are read in other portions. -/
theorem resolution_resized {c : Consumer} {count : Int} (hcount : 1 ≤ count) (hc : Configured c.live)
    (hlisted : c.site.log.versions ≠ []) (hlast : c.last.isWritable = true) {v : Int}
    (hstart : startOf (normalize c.last) = .ok (some v)) (hv : Numeral.Writable v) {token : String}
    (htoken : format (Version.upperAfter c.site.log.versions count v) = .ok token) :
    ∃ mode, resolution (c.resized count).site.log.versions (c.resized count).live (c.resized count).last =
      .ok ⟨mode, ⟨v, Version.upperAfter c.site.log.versions count v⟩, token⟩ := by
  have hversions : Version.ascending c.site.log.versions = c.site.log.versions := Version.ascending_ascending _
  have hafter : format (Version.upperAfter (Version.ascending c.site.log.versions) count v) = .ok token := by
    rw [hversions]
    exact htoken
  have hresolved := resolution_after (s := (c.resized count).live) (configured_put_iff.mpr hc)
    ((c.live.check_put_fetchSize count .sizeCheck).trans (if_pos rfl))
    ((c.live.check_put_fetchSize count .sizeCount).trans (if_pos rfl)) hcount hlisted hlast hstart hv hafter
  rw [hversions] at hresolved
  exact hresolved

/-- A consumer that has nothing left to read: its checkpoint is a token, after which no version is listed. -/
structure Idle (c : Consumer) (v : Int) (token : String) : Prop where
  configured : Configured c.live
  last : c.last = .str token
  token : format v = .ok token
  listed : c.site.log.versions ≠ []
  none_left : Version.above c.site.log.versions v = []

/-- Its next fetch delivers nothing, and leaves it as idle. -/
theorem Idle.fetch {c : Consumer} {v : Int} {token : String} (h : c.Idle v token)
    (hsource : source.InMemory answers) {count : Int} (hcount : 1 ≤ count) {limit : Json}
    (hlimit : limit.isWritable = true) :
    ∃ d, (c.resized count).Delivers source answers d ((c.resized count).fetch source limit) ∧
      d.range = ⟨v, v⟩ ∧ d.batch.token = token ∧ ((c.resized count).fetch source limit).Idle v token := by
  have hstart : startOf (normalize c.last) = .ok (some v) := by
    rw [h.last]
    exact startOf_format h.token
  have hlast : c.last.isWritable = true := by
    rw [h.last]
    rfl
  have hupper : Version.upperAfter c.site.log.versions count v = v :=
    Version.upperAfter_of_above_eq_nil hcount h.none_left
  have hconfigured : Configured (c.resized count).live := configured_put_iff.mpr h.configured
  obtain ⟨mode, hresolved⟩ := resolution_resized hcount h.configured h.listed hlast hstart
    (Numeral.written_eq_ok_iff.mp h.token).1 (by rw [hupper]; exact h.token)
  rw [hupper] at hresolved
  have hbatch : (source.outcome answers (c.resized count).live ⟨mode, ⟨v, v⟩, token⟩
      (c.resized count).site).1 = .ok ⟨none, token⟩ := by
    have hcaught : (⟨v, v⟩ : VersionRange).caughtUp = true := VersionRange.caughtUp_iff.mpr rfl
    rw [Source.outcome, if_pos hcaught]
  have hd := fetch_delivers hsource (c.resized count) hlimit hresolved hbatch
  refine ⟨_, hd, rfl, rfl, ?_⟩
  constructor
  case configured =>
    rw [hd.live]
    exact hconfigured
  case last => exact hd.last
  case token => exact h.token
  case listed =>
    rw [hd.log_eq]
    exact h.listed
  case none_left =>
    rw [hd.log_eq]
    exact h.none_left

/-- So do all fetches that follow. -/
theorem Idle.drained {c : Consumer} {v : Int} {token : String} (h : c.Idle v token)
    (hsource : source.InMemory answers) {more : List (Int × Json)}
    (hmore : ∀ f ∈ more, 1 ≤ f.1 ∧ f.2.isWritable = true) :
    ∃ ds, Drained source answers c more ds ∧
      ∀ d ∈ ds, d.range = ⟨v, v⟩ ∧ d.batch.token = token := by
  induction more generalizing c with
  | nil => exact ⟨[], .done c, fun d hd => absurd hd List.not_mem_nil⟩
  | cons f more ih =>
    obtain ⟨hcount, hlimit⟩ := hmore f (List.mem_cons_self ..)
    obtain ⟨d, hd, hrange, htoken, hidle⟩ := h.fetch hsource hcount hlimit
    obtain ⟨ds, hds, hall⟩ := ih hidle fun g hg => hmore g (List.mem_cons_of_mem _ hg)
    refine ⟨d :: ds, .more hd hds, fun e he => ?_⟩
    rcases List.mem_cons.mp he with rfl | he
    · exact ⟨hrange, htoken⟩
    · exact hall e he

/-- A consumer that has come to a version. All rows of its log have sizes, and whatever it loads is assembled. -/
structure Steady (c : Consumer) (v : Int) : Prop where
  configured : Configured c.live
  start : startOf (normalize c.last) = .ok (some v)
  last : c.last.isWritable = true
  told : Numeral.Writable v
  listed : c.site.log.versions ≠ []
  versions : ∀ w ∈ c.site.log.versions, Numeral.Writable w
  sized : ∀ commit ∈ c.site.log.commits, ∀ r ∈ commit.2, r.Sized
  assembles : ∀ (site : Site) (paths : List String), ∃ table, assembled site c.live paths = .ok table

/-- Its next fetch delivers the versions that follow, and leads to the last of them. -/
theorem Steady.fetch {c : Consumer} {v : Int} (h : c.Steady v) (hsource : source.InMemory answers) {count : Int}
    (hcount : 1 ≤ count) {limit : Json} (hlimit : limit.isWritable = true) :
    ∃ d, (c.resized count).Delivers source answers d ((c.resized count).fetch source limit) ∧
      d.range = ⟨v, Version.upperAfter c.site.log.versions count v⟩ ∧
      ((c.resized count).fetch source limit).Steady (Version.upperAfter c.site.log.versions count v) := by
  generalize hupper : Version.upperAfter c.site.log.versions count v = upper
  have htold : Numeral.Writable upper := by
    have hadvances : Version.Advances c.site.log.versions v _ := Version.advances_upperAfter hcount
    rcases hadvances.mem_or_eq with heq | hmem
    · rw [← hupper, heq]
      exact h.told
    · exact h.versions upper (hupper ▸ hmem)
  have hconfigured : Configured (c.resized count).live := configured_put_iff.mpr h.configured
  obtain ⟨mode, hresolved⟩ := resolution_resized hcount h.configured h.listed h.last h.start h.told
    (by rw [hupper]; exact Numeral.written_of_writable htold)
  rw [hupper] at hresolved
  have hassembles (site : Site) (paths : List String) :
      ∃ table, assembled site (c.resized count).live paths = .ok table := by
    obtain ⟨table, htable⟩ := h.assembles site paths
    exact ⟨table, (assembled_put_fetchSize ..).trans htable⟩
  have hsized : ∀ r ∈ (c.resized count).site.log.rows ⟨v, upper⟩, r.Sized := by
    intro r hr
    obtain ⟨commit, hcommit, -, hin⟩ := Log.mem_rows.mp hr
    exact h.sized commit hcommit r hin
  obtain ⟨batch, hbatch⟩ := source.outcome_eq_ok answers mode (Numeral.text upper) hsized
    (hassembles (c.resized count).site)
  have hd := fetch_delivers hsource (c.resized count) hlimit hresolved hbatch
  refine ⟨_, hd, rfl, ?_⟩
  constructor
  case configured =>
    rw [hd.live]
    exact hconfigured
  case start => exact hd.startOf_last
  case last =>
    rw [hd.last]
    rfl
  case told => exact htold
  case listed =>
    rw [hd.log_eq]
    exact h.listed
  case versions =>
    rw [hd.log_eq]
    exact h.versions
  case sized =>
    rw [hd.log_eq]
    exact h.sized
  case assembles =>
    rw [hd.live]
    exact hassembles

/-- The ranges that fetches of these sizes take, one after the other. -/
def portions (listed : List Int) (lower : Int) : List Int → List VersionRange
  | [] => []
  | count :: counts =>
      let upper := Version.upperAfter listed count lower
      ⟨lower, upper⟩ :: portions listed upper counts

/-- None of its fetches fails, and their ranges follow from the sizes. -/
theorem Steady.drained {c : Consumer} {v : Int} (h : c.Steady v) (hsource : source.InMemory answers)
    (fetches : List (Int × Json)) (hfetches : ∀ f ∈ fetches, 1 ≤ f.1 ∧ f.2.isWritable = true) :
    ∃ ds, Drained source answers c fetches ds ∧
      ds.map Delivery.range = portions c.site.log.versions v (fetches.map (·.1)) := by
  induction fetches generalizing c v with
  | nil => exact ⟨[], .done c, rfl⟩
  | cons f fetches ih =>
    obtain ⟨hcount, hlimit⟩ := hfetches f (List.mem_cons_self ..)
    obtain ⟨d, hd, hrange, hsteady⟩ := h.fetch hsource hcount hlimit
    obtain ⟨ds, hds, hranges⟩ := ih hsteady fun g hg => hfetches g (List.mem_cons_of_mem _ hg)
    refine ⟨d :: ds, .more hd hds, ?_⟩
    have hlog : ((c.resized f.1).fetch source f.2).site.log = c.site.log := hd.log_eq
    rw [List.map_cons, List.map_cons, hrange, hranges, hlog]
    rfl

theorem Drained.configured {c : Consumer} {fetches : List (Int × Json)} {ds : List Delivery}
    (h : Drained source answers c fetches ds) (hc : Configured c.live) :
    Configured (c.run source (drain fetches)).live := by
  induction h with
  | done c => exact hc
  | more hd _ ih =>
    apply ih
    rw [hd.live]
    exact configured_put_iff.mpr hc

/-- After a fetch that was caught up, the others of a drain are as it was. -/
theorem Drained.eq_of_caughtUp {c : Consumer} {fetches : List (Int × Json)} {ds : List Delivery}
    (h : Drained source answers c fetches ds) {listed : List Int} {lower : Int}
    (hworks : Version.WorksOff listed lower (ds.map Delivery.range)) {i j : Nat} {d e : Delivery}
    (hd : ds[i]? = some d) (he : ds[j]? = some e) (hij : i ≤ j) (hcaught : d.range.caughtUp = true) :
    e.range = d.range ∧ e.batch.token = d.batch.token := by
  have hsame := hworks.eq_of_caughtUp (Delivery.getElem?_ranges hd) (Delivery.getElem?_ranges he) hij hcaught
  refine ⟨hsame, h.token_eq (List.mem_of_getElem? he) (List.mem_of_getElem? hd) ?_⟩
  rw [hsame]

/-- A drain that was caught up once has nothing left to read when it ends. -/
theorem Drained.idle {c : Consumer} {fetches : List (Int × Json)} {ds : List Delivery}
    (h : Drained source answers c fetches ds) (hc : Configured c.live) (hlisted : c.site.log.versions ≠ [])
    {lower : Int} (hworks : Version.WorksOff c.site.log.versions lower (ds.map Delivery.range))
    {i : Nat} {d : Delivery} (hd : ds[i]? = some d) (hcaught : d.range.caughtUp = true) :
    (c.run source (drain fetches)).Idle d.range.upper d.batch.token := by
  obtain ⟨hi, -⟩ := List.getElem?_eq_some_iff.mp hd
  have hdmem := List.mem_of_getElem? hd
  have hlast : ds[ds.length - 1]? = some ds[ds.length - 1] := List.getElem?_eq_getElem _
  obtain ⟨-, htoken⟩ := h.eq_of_caughtUp hworks hd hlast (by omega) hcaught
  rw [← List.getLast?_eq_getElem?] at hlast
  constructor
  case configured => exact h.configured hc
  case last => rw [(h.last_eq hlast).1, htoken]
  case token => exact h.format_upper hdmem
  case listed =>
    rw [h.site_eq.1]
    exact hlisted
  case none_left =>
    rw [h.site_eq.1, ← VersionRange.caughtUp_iff.mp hcaught]
    exact (hworks.caughtUp_iff (List.mem_map_of_mem hdmem)).mp hcaught

/-- Fetches that follow it deliver the same empty range and the same token. -/
theorem Drained.stays_caughtUp {c : Consumer} {fetches : List (Int × Json)} {ds : List Delivery}
    (h : Drained source answers c fetches ds) (hsource : source.InMemory answers) (hc : Configured c.live)
    (hlisted : c.site.log.versions ≠ []) {lower : Int}
    (hworks : Version.WorksOff c.site.log.versions lower (ds.map Delivery.range))
    {i : Nat} {d : Delivery} (hd : ds[i]? = some d) (hcaught : d.range.caughtUp = true)
    {more : List (Int × Json)} (hmore : ∀ f ∈ more, 1 ≤ f.1 ∧ f.2.isWritable = true) :
    ∃ idle, (c.run source (drain (fetches ++ more))).deliveries = c.deliveries ++ ds ++ idle ∧
      idle.length = more.length ∧ ∀ e ∈ idle, e.range = d.range ∧ e.batch.token = d.batch.token := by
  have hidle := h.idle hc hlisted hworks hd hcaught
  obtain ⟨idle, hdrained, hall⟩ := hidle.drained hsource hmore
  refine ⟨idle, ?_, hdrained.length_eq, fun e he => ?_⟩
  · rw [run_drain_append, hdrained.deliveries_eq, h.deliveries_eq]
  · obtain ⟨hrange, htoken⟩ := hall e he
    have hend := VersionRange.caughtUp_iff.mp hcaught
    refine ⟨?_, htoken⟩
    calc e.range = ⟨d.range.upper, d.range.upper⟩ := hrange
      _ = ⟨d.range.lower, d.range.upper⟩ := by rw [hend]

/-- Where a drain begins is told by what its checkpoint resolves to with any size. -/
theorem Drained.worksOff_start {live : LiveSettings} {last : Json} {scene : Scene Site}
    {fetches : List (Int × Json)} {ds : List Delivery}
    (h : Drained source answers (start live last scene) fetches ds)
    (hversions : ∀ v ∈ scene.world.log.versions, 0 ≤ v) {count : Int} {resolved : Resolved}
    (hresolved : resolution scene.world.log.versions (live.put .fetchSize (.int count)) last =
      .ok resolved) :
    Version.WorksOff scene.world.log.versions resolved.range.lower (ds.map Delivery.range) := by
  apply h.worksOff hversions
  intro d hd
  cases h with
  | done => cases hd
  | more hfirst _ =>
    cases hd
    exact lower_eq_of_resolution hfirst.resolved hresolved rfl

/-- Two drains from the same start that have nothing left to read agree. -/
theorem Drained.agree {c : Consumer} {fetches others : List (Int × Json)} {ds es : List Delivery}
    (h : Drained source answers c fetches ds) (h' : Drained source answers c others es) {lower : Int}
    (hworks : Version.WorksOff c.site.log.versions lower (ds.map Delivery.range))
    (hworks' : Version.WorksOff c.site.log.versions lower (es.map Delivery.range)) {d e : Delivery}
    (hd : ds.getLast? = some d) (he : es.getLast? = some e) (hcaught : d.range.caughtUp = true)
    (hcaught' : e.range.caughtUp = true) :
    (c.run source (drain fetches)).last = (c.run source (drain others)).last ∧
      ∃ loads loads', (c.run source (drain fetches)).site.loaded = c.site.loaded ++ loads ∧
        (c.run source (drain others)).site.loaded = c.site.loaded ++ loads' ∧
        ∀ path, path ∈ loads.flatten ↔ path ∈ loads'.flatten := by
  have hdmem : d.range ∈ ds.map Delivery.range := List.mem_map_of_mem (List.mem_of_getLast? hd)
  have hemem : e.range ∈ es.map Delivery.range := List.mem_map_of_mem (List.mem_of_getLast? he)
  have hupper : d.range.upper = e.range.upper := Int.le_antisymm
    (hworks.upper_le_of_caughtUp hworks' hdmem hemem hcaught')
    (hworks'.upper_le_of_caughtUp hworks hemem hdmem hcaught)
  constructor
  · obtain ⟨hlast, hformat⟩ := h.last_eq hd
    obtain ⟨hlast', hformat'⟩ := h'.last_eq he
    rw [hupper, hformat', Except.ok.injEq] at hformat
    rw [hlast, hlast', hformat]
  · obtain ⟨loads, hloads, hmem⟩ := h.loads
    obtain ⟨loads', hloads', hmem'⟩ := h'.loads
    refine ⟨loads, loads', hloads, hloads', fun path => ?_⟩
    rw [hmem, hmem', brings_iff hworks hd, brings_iff hworks' he, hupper]

/-- Fetching again and again from a checkpoint that resolves, with any sizes and as long as no fetch fails,
goes forward until nothing is left. That is after as many fetches at most as versions were to be read, and from
a token with a constant size after just as many as these versions need. From then on no fetch fails, reads
anything or changes the checkpoint. Two such drains end at the same checkpoint and load the same paths. -/
theorem drains_backlog (hsource : source.InMemory answers) (live : LiveSettings) (last : Json)
    (scene : Scene Site) (hordered : scene.world.log.Ordered)
    (hversions : ∀ v ∈ scene.world.log.versions, 0 ≤ v) {count : Int} {resolved : Resolved}
    (hresolved : ((source.resolve (live.put .fetchSize (.int count)) last).runIn scene).1 = .ok resolved)
    {fetches : List (Int × Json)}
    (hall : ((start live last scene).run source (drain fetches)).deliveries.length = fetches.length) :
    let backlog := (Version.above scene.world.log.versions resolved.range.lower).length
    let drained (fetches : List (Int × Json)) := (start live last scene).run source (drain fetches)
    let deliveries := (drained fetches).deliveries
    (∀ d, deliveries.head? = some d → d.range.lower = resolved.range.lower) ∧
      (∀ (i : Nat) (d e : Delivery), deliveries[i]? = some d → deliveries[i + 1]? = some e →
        e.range.lower = d.range.upper) ∧
      (∀ d ∈ deliveries, d.range.caughtUp = false → d.range.lower < d.range.upper) ∧
      (∀ (i : Nat) (d : Delivery), deliveries[i]? = some d → backlog ≤ i → d.range.caughtUp = true) ∧
      (∀ v, startOf (normalize last) = .ok (some v) → (∀ f ∈ fetches, f.1 = count) →
        ∀ (i : Nat) (d : Delivery), deliveries[i]? = some d →
          (d.range.caughtUp = true ↔ (backlog + count.toNat - 1) / count.toNat ≤ i)) ∧
      (∀ (i : Nat) (d : Delivery), deliveries[i]? = some d → d.range.caughtUp = true →
        (∀ (j : Nat) (e : Delivery), i ≤ j → deliveries[j]? = some e →
          e.range = d.range ∧ e.batch.token = d.batch.token) ∧
        ∀ more : List (Int × Json), (∀ f ∈ more, 1 ≤ f.1 ∧ f.2.isWritable = true) →
          ∃ idle, (drained (fetches ++ more)).deliveries = deliveries ++ idle ∧
            idle.length = more.length ∧
            ∀ e ∈ idle, e.range = d.range ∧ e.batch.token = d.batch.token) ∧
      ∀ others : List (Int × Json), (drained others).deliveries.length = others.length →
        (∃ d, deliveries.getLast? = some d ∧ d.range.caughtUp = true) →
        (∃ d, (drained others).deliveries.getLast? = some d ∧ d.range.caughtUp = true) →
          (drained fetches).last = (drained others).last ∧
            ∃ loads loads', (drained fetches).site.loaded = scene.world.loaded ++ loads ∧
              (drained others).site.loaded = scene.world.loaded ++ loads' ∧
              ∀ path, path ∈ loads.flatten ↔ path ∈ loads'.flatten := by
  intro backlog drained deliveries
  have hlisted := ((hsource.resolve_gives _ last scene.world).result_eq rfl).symm.trans hresolved
  have hserves := resolution_eq_ok.mp hlisted
  have hnonempty : scene.world.log.versions ≠ [] := by
    obtain ⟨-, -, -, _, _, -, -, hplan, -⟩ := hserves
    exact (Version.plan_ok hplan).1
  obtain ⟨ds, hds⟩ := drained_of_length hsource (hall.trans (Nat.zero_add _).symm)
  have hdeliveries : deliveries = ds := hds.deliveries_eq
  have hworks := hds.worksOff_start hversions hlisted
  have hmem {d : Delivery} (hd : d ∈ ds) : d.range ∈ ds.map Delivery.range := List.mem_map_of_mem hd
  rw [hdeliveries]
  refine ⟨?_, ?_, ?_, ?_, ?_, ?_, ?_⟩
  · intro d hd
    cases ds with
    | nil => cases hd
    | cons e rest =>
      cases hd
      exact hworks.1
  · intro i d e hd he
    exact hworks.tile.lower_eq (Delivery.getElem?_ranges hd) (Delivery.getElem?_ranges he)
  · intro d hd hmore
    have hle := hworks.tile.forward _ (hmem hd)
    have hne : d.range.lower ≠ d.range.upper := of_decide_eq_false hmore
    omega
  · intro i d hd hi
    exact hworks.caughtUp_of_length_le (Delivery.getElem?_ranges hd) hi
  · intro v hstart hsame i d hd
    exact hworks.caughtUp_iff_div_le hordered.pairwise_versions hserves.2.2.1
      (fun r hr => hds.upper_eq hstart hsame hr) (Delivery.getElem?_ranges hd)
  · intro i d hd hcaught
    constructor
    · intro j e hij he
      exact hds.eq_of_caughtUp hworks hd he hij hcaught
    · intro more hmore
      have hconfigured : Configured live := configured_put_iff.mp hserves.1
      exact hds.stays_caughtUp hsource hconfigured hnonempty hworks hd hcaught hmore
  · rintro others hothers ⟨d, hd, hcaught⟩ ⟨e, he, hcaught'⟩
    obtain ⟨es, hes⟩ := drained_of_length hsource (hothers.trans (Nat.zero_add _).symm)
    have hothers' : (drained others).deliveries = es := hes.deliveries_eq
    rw [hothers'] at he
    exact hds.agree hes hworks (hes.worksOff_start hversions hlisted) hd he hcaught hcaught'

/-- A log of which the versions from 1 on are listed, with gaps between them. -/
def gappedSite : Site where
  log :=
    { retainedFrom := 1
      commits :=
        [(0, [⟨some "landing", some "in/old.parquet", .whole 1⟩]),
          (1, [⟨some "landing", some "in/a.parquet", .whole 3⟩, ⟨some "landing", none, .whole 5⟩]),
          (3, [⟨some "landing", some "in/b.parquet", .whole 4⟩, ⟨some "landing", some "in/e.parquet", .null⟩]),
          (4, [⟨some "landing", some "in/a.parquet", .whole 9⟩]),
          (6, [⟨some "landing", some "in/c%20d.parquet", .whole 2⟩])] }

theorem versions_gappedSite : gappedSite.log.versions = [1, 3, 4, 6] := Version.ascending_eq_self (by decide)

theorem steady_gappedSite : (start Source.readingAll (.str "0") (Scene.start gappedSite)).Steady 0 := by
  have hversions : (start Source.readingAll (.str "0") (Scene.start gappedSite)).site.log.versions = [1, 3, 4, 6] :=
    versions_gappedSite
  constructor
  case configured => exact Source.configured_readingAll
  case start => exact startOf_format rfl
  case last => rfl
  case told => decide +kernel
  case listed =>
    rw [hversions]
    exact List.cons_ne_nil _ _
  case versions =>
    rw [hversions]
    decide +kernel
  case sized =>
    have hrow (bucket key : Option String) (n : Int) : Row.Sized ⟨bucket, key, .whole n⟩ := Or.inr ⟨n, rfl⟩
    have hnone (bucket key : Option String) : Row.Sized ⟨bucket, key, .null⟩ := Or.inl rfl
    simp [start, site, Scene.start, gappedSite, hrow, hnone]
  case assembles => exact fun site paths => ⟨_, rfl⟩

/-- Three fetches of two versions each, and three of other sizes, end at the same version. -/
theorem drains_backlog_gappedSite :
    let drained (fetches : List (Int × Json)) :=
      (start Source.readingAll (.str "0") (Scene.start gappedSite)).run Source.openSource (drain fetches)
    let even := drained [(2, .null), (2, .int 7), (2, .null)]
    let uneven := drained [(1, .null), (3, .null), (5, .null)]
    (Source.openSource.InMemory Probe.presence ∧ gappedSite.log.Ordered ∧
      (∀ v ∈ gappedSite.log.versions, 0 ≤ v) ∧
      ∃ resolved, ((Source.openSource.resolve (Source.readingAll.put .fetchSize (.int 2)) (.str "0")).runIn
        (Scene.start gappedSite)).1 = .ok resolved ∧ resolved.range = ⟨0, 3⟩) ∧
      even.deliveries.map Delivery.range = [⟨0, 3⟩, ⟨3, 6⟩, ⟨6, 6⟩] ∧
      uneven.deliveries.map Delivery.range = [⟨0, 1⟩, ⟨1, 6⟩, ⟨6, 6⟩] ∧
      (∀ (i : Nat) (d : Delivery), even.deliveries[i]? = some d → (d.range.caughtUp = true ↔ 2 ≤ i)) ∧
      even.last = .str "6" ∧ uneven.last = .str "6" ∧
      (∀ path, path ∈ even.site.loaded.flatten ↔ path ∈ uneven.site.loaded.flatten) ∧
      "s3://landing/in/c d.parquet" ∈ even.site.loaded.flatten := by
  have hsource := Source.inMemory_openSource
  have hordered : gappedSite.log.Ordered := by
    unfold Log.Ordered
    decide
  have hlisted : (start Source.readingAll (.str "0") (Scene.start gappedSite)).site.log.versions = [1, 3, 4, 6] :=
    versions_gappedSite
  have hversions : ∀ v ∈ gappedSite.log.versions, 0 ≤ v := by
    rw [versions_gappedSite]
    decide
  obtain ⟨resolved, hresolved, hrange⟩ : ∃ resolved,
      ((Source.openSource.resolve (Source.readingAll.put .fetchSize (.int 2)) (.str "0")).runIn
        (Scene.start gappedSite)).1 = .ok resolved ∧ resolved.range = ⟨0, 3⟩ := by
    have hthree : format (Version.upperAfter gappedSite.log.versions 2 0) = .ok "3" := by
      rw [versions_gappedSite]
      rfl
    have hcount : (1 : Int) ≤ 2 := by decide
    obtain ⟨mode, hmode⟩ := resolution_resized hcount steady_gappedSite.configured steady_gappedSite.listed rfl
      steady_gappedSite.start steady_gappedSite.told hthree
    rw [hlisted] at hmode
    exact ⟨_, ((hsource.resolve_gives _ (.str "0") gappedSite).result_eq rfl).trans hmode, rfl⟩
  obtain ⟨ds, hds, hranges⟩ := steady_gappedSite.drained hsource
    [(2, .null), (2, .int 7), (2, .null)] (by decide)
  obtain ⟨es, hes, hranges'⟩ := steady_gappedSite.drained hsource
    [(1, .null), (3, .null), (5, .null)] (by decide)
  rw [hlisted] at hranges hranges'
  have hlast {ds : List Delivery} {ranges : List VersionRange} (h : ds.map Delivery.range = ranges)
      (hend : ranges.getLast? = some ⟨6, 6⟩) : ∃ d, ds.getLast? = some d ∧ d.range = ⟨6, 6⟩ := by
    rw [← h, List.getLast?_map] at hend
    exact Option.map_eq_some_iff.mp hend
  obtain ⟨d, hd, hend⟩ := hlast hranges rfl
  obtain ⟨e, he, hend'⟩ := hlast hranges' rfl
  obtain ⟨heven, htoken⟩ := hds.last_eq hd
  rw [hend] at htoken
  obtain ⟨brought, hloaded, hbrought⟩ := hds.loads
  have hbrings : ∃ f ∈ ds, Source.openSource.Brings gappedSite.probe.presence (gappedSite.log.rows f.range)
      "s3://landing/in/c d.parquet" := by
    have hmem : (⟨3, 6⟩ : VersionRange) ∈ ds.map Delivery.range := by
      rw [hranges]
      decide
    obtain ⟨f, hf, hrange⟩ := List.mem_map.mp hmem
    refine ⟨f, hf, ⟨some "landing", some "in/c%20d.parquet", .whole 2⟩, ?_, rfl, ⟨"landing", "in/c%20d.parquet"⟩,
      rfl, rfl, ?_, fun h => nomatch h⟩
    · rw [hrange]
      exact Log.mem_rows.mpr ⟨_, List.mem_of_getElem? (i := 4) rfl, rfl, List.mem_singleton.mpr rfl⟩
    · exact decode_build_eq_ok_iff.mp (Work.eq_ok_of_toOption (by decide +kernel))
  have hcount := hds.length_eq
  have hcount' := hes.length_eq
  rw [← hds.deliveries_eq.trans (List.nil_append _)] at hranges hd hcount
  rw [← hes.deliveries_eq.trans (List.nil_append _)] at hranges' he hcount'
  obtain ⟨-, -, -, -, hceil, -, hagree⟩ := drains_backlog hsource Source.readingAll (.str "0")
    (Scene.start gappedSite) hordered hversions hresolved hcount
  obtain ⟨hsame, loads, loads', hloads, hloads', hpaths⟩ := hagree _ hcount'
    ⟨d, hd, by rw [hend]; rfl⟩ ⟨e, he, by rw [hend']; rfl⟩
  have hsix : Json.str d.batch.token = .str "6" := congrArg Json.str (Except.ok.inj htoken).symm
  refine ⟨⟨hsource, hordered, hversions, resolved, hresolved, hrange⟩, hranges, hranges', ?_, heven.trans hsix,
    hsame.symm.trans (heven.trans hsix), ?_, ?_⟩
  · intro i d hi
    have hbacklog : (Version.above gappedSite.log.versions 0).length = 4 := by
      rw [versions_gappedSite]
      rfl
    have hcaught := hceil 0 (startOf_format rfl) (by decide) i d hi
    rw [hrange] at hcaught
    exact hcaught.trans (by rw [show (Scene.start gappedSite).world = gappedSite from rfl, hbacklog]; rfl)
  · intro path
    rw [hloads, hloads']
    exact hpaths path
  · rw [hloaded]
    exact (hbrought _).mpr hbrings


end Consumer
end ObjectIntake
