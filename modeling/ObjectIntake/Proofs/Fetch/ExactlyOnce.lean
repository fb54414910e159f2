import ObjectIntake.Proofs.Fetch.Consumer
import ObjectIntake.Proofs.Version.Tiling

/-!
A consumer that starts without a checkpoint takes each version once. Its ranges follow one another without a
gap, whatever happens to the log, the settings and the probe between its fetches, and whichever of them fail.
-/
namespace ObjectIntake
open Settings Event ObjectPath Checkpoint Memory Dataset

/-- Where the first range begins: before all versions, or at the newest version that is listed. -/
def Delivery.BeginsBy (d : Delivery) : Option Strategy → Prop
  | some .uptoLatest => d.range.lower = -1
  | some .latest => d.range.lower ∈ d.before.log.versions ∧ ∀ v ∈ d.before.log.versions, v ≤ d.range.lower
  | none => False

namespace Consumer

/-- The rows of the commits among some actions, in their order. -/
def committed (actions : List Action) : List (List Row) :=
  actions.filterMap fun
    | .commit rows => some rows
    | _ => none

variable (source : Source Site (List Row) Table) (answers : Probe → String → Presence)

/-- What holds of a consumer after any actions: the log has what was committed, the ranges tile, what was read
is still what the log holds there, and the checkpoint is that of the last range. -/
structure Tracks (chosen : Option Strategy) (batches : List (List Row)) (c : Consumer) : Prop where
  commits : c.site.log.commits = Log.numbered batches
  strategy : Checkpoint.strategy c.live.toSourceSettings = chosen
  tile : VersionRange.Tile (c.deliveries.map Delivery.range)
  settled : ∀ d ∈ c.deliveries, d.range.upper < c.site.log.next ∧ d.read = .ok (c.site.log.rows d.range)
  reads : ∀ d ∈ c.deliveries, d.after.reads =
    d.before.reads ++ if d.range.caughtUp then [] else [(d.resolved.mode, d.range)]
  loads : ∀ d ∈ c.deliveries, ∃ rows loads, d.read = .ok rows ∧ d.after.loaded = d.before.loaded ++ loads ∧
    ∀ path, path ∈ loads.flatten ↔ source.Brings (answers d.before.probe) rows path
  first : ∀ d, c.deliveries.head? = some d → d.BeginsBy chosen
  unread : c.deliveries = [] → c.last = .null
  last : ∀ d, c.deliveries.getLast? = some d →
    c.last = .str d.batch.token ∧ format d.range.upper = .ok d.batch.token

variable {source answers} {chosen : Option Strategy} {batches : List (List Row)} {c : Consumer}

theorem tracks_start (live : LiveSettings) (scene : Scene Site) (h : scene.world.log = Log.empty) :
    (start live .null scene).Tracks source answers (Checkpoint.strategy live.toSourceSettings) [] where
  commits := by
    rw [site, start, h]
    rfl
  strategy := rfl
  tile := VersionRange.tile_nil
  settled := fun _ hd => absurd hd List.not_mem_nil
  reads := fun _ hd => absurd hd List.not_mem_nil
  loads := fun _ hd => absurd hd List.not_mem_nil
  first := fun _ hd => by cases hd
  unread := fun _ => rfl
  last := fun _ hd => by cases hd

namespace Tracks

/-- Steps that leave the commits and the deliveries alone. -/
theorem of_eq (h : c.Tracks source answers chosen batches) {next : Consumer}
    (hcommits : next.site.log.commits = c.site.log.commits)
    (hstrategy : Checkpoint.strategy next.live.toSourceSettings =
      Checkpoint.strategy c.live.toSourceSettings)
    (hlast : next.last = c.last) (hdeliveries : next.deliveries = c.deliveries) :
    next.Tracks source answers chosen batches := by
  have hnext : next.site.log.next = c.site.log.next := by
    unfold Log.next
    rw [hcommits]
  have hrows (range : VersionRange) : next.site.log.rows range = c.site.log.rows range := by
    unfold Log.rows
    rw [hcommits]
  constructor
  case commits => exact hcommits.trans h.commits
  case strategy => exact hstrategy.trans h.strategy
  case tile =>
    rw [hdeliveries]
    exact h.tile
  case settled =>
    rw [hdeliveries, hnext]
    intro d hd
    rw [hrows]
    exact h.settled d hd
  case reads =>
    rw [hdeliveries]
    exact h.reads
  case loads =>
    rw [hdeliveries]
    exact h.loads
  case first =>
    rw [hdeliveries]
    exact h.first
  case unread =>
    rw [hdeliveries, hlast]
    exact h.unread
  case last =>
    rw [hdeliveries, hlast]
    exact h.last

theorem commit (h : c.Tracks source answers chosen batches) (rows : List Row) :
    (c.step source (.commit rows)).Tracks source answers chosen (batches ++ [rows]) := by
  have hnext := Log.next_of_numbered h.commits
  have hcommits : (c.site.log.commit rows).commits = Log.numbered (batches ++ [rows]) := by
    rw [Log.commits_commit, Log.numbered_concat, h.commits, hnext]
  refine ⟨hcommits, h.strategy, h.tile, fun d hd => ?_, h.reads, h.loads, h.first, h.unread, h.last⟩
  obtain ⟨hupper, hrows⟩ := h.settled d hd
  constructor
  · have hlonger := Log.next_of_numbered hcommits
    rw [List.length_append, List.length_singleton] at hlonger
    change d.range.upper < (c.site.log.commit rows).next
    omega
  · rw [hrows]
    exact congrArg Except.ok (Log.rows_commit hupper rows).symm

theorem next_nonneg (h : c.Tracks source answers chosen batches) {v : Int} (hv : v ∈ c.site.log.versions) :
    0 ≤ v ∧ v < c.site.log.next := by
  obtain ⟨⟨rows, hrows⟩, -⟩ := Log.mem_versions.mp hv
  refine ⟨?_, Log.lt_next hrows⟩
  rw [h.commits] at hrows
  obtain ⟨i, _, heq⟩ := List.mem_mapIdx.mp hrows
  cases heq
  exact Int.natCast_nonneg i

/-- The range of the first delivery begins by the strategy. -/
theorem range_first (h : c.Tracks source answers chosen batches) {d : Delivery} {next : Consumer}
    (hd : c.Delivers source answers d next) (hnone : c.deliveries = []) :
    d.range.lower ≤ d.range.upper ∧ d.range.upper < c.site.log.next ∧ d.BeginsBy chosen := by
  have hstart : startOf (normalize c.last) = .ok none := by
    rw [h.unread hnone]
    rfl
  rcases hd.range_cases with ⟨v, hv, -⟩ | ⟨-, newest, s, hs, hmem, hmax, hrange⟩
  · rw [hstart] at hv
    cases hv
  · obtain ⟨hnonneg, hlt⟩ := h.next_nonneg hmem
    rw [h.strategy] at hs
    rw [hs, Delivery.BeginsBy.eq_def, hrange, hd.before]
    cases s with
    | latest => exact ⟨Int.le_refl _, hlt, hmem, hmax⟩
    | uptoLatest => exact ⟨show (-1 : Int) ≤ newest by omega, hlt, rfl⟩

/-- The range of a later delivery begins where the last one ended. -/
theorem range_later (h : c.Tracks source answers chosen batches) {d e : Delivery} {next : Consumer}
    (hd : c.Delivers source answers d next) (he : c.deliveries.getLast? = some e) :
    d.range.lower ≤ d.range.upper ∧ d.range.upper < c.site.log.next ∧
      d.range.lower = e.range.upper := by
  obtain ⟨hlast, hformat⟩ := h.last e he
  have hstart := startOf_format hformat
  rw [← hlast] at hstart
  have hcount := hd.one_le_fetchSize
  obtain ⟨hend, -⟩ := h.settled e (List.mem_of_getLast? he)
  rcases hd.range_cases with ⟨v, hv, hrange⟩ | ⟨hv, -⟩
  · rw [hstart] at hv
    cases hv
    rw [hrange]
    exact ⟨Version.le_upperAfter hcount,
      Version.upperAfter_lt hcount hend fun v hv => (h.next_nonneg hv).2, rfl⟩
  · rw [hstart] at hv
    cases hv

theorem deliver (h : c.Tracks source answers chosen batches) {d : Delivery} {next : Consumer}
    (hd : c.Delivers source answers d next) : next.Tracks source answers chosen batches := by
  have hlog := hd.log_eq
  have hrange : d.range.lower ≤ d.range.upper ∧ d.range.upper < c.site.log.next := by
    cases he : c.deliveries.getLast? with
    | none =>
      obtain ⟨hle, hlt, -⟩ := h.range_first hd (List.getLast?_eq_none_iff.mp he)
      exact ⟨hle, hlt⟩
    | some e =>
      obtain ⟨hle, hlt, -⟩ := h.range_later hd he
      exact ⟨hle, hlt⟩
  have hmem {e : Delivery} (he : e ∈ next.deliveries) : e ∈ c.deliveries ∨ e = d := by
    rw [hd.deliveries, List.mem_append, List.mem_singleton] at he
    exact he
  constructor
  case commits =>
    rw [hlog]
    exact h.commits
  case strategy =>
    rw [hd.live]
    exact h.strategy
  case tile =>
    rw [hd.deliveries, List.map_append, List.map_singleton]
    apply h.tile.concat hrange.1
    intro r hr
    rw [List.getLast?_map, Option.map_eq_some_iff] at hr
    obtain ⟨e, he, rfl⟩ := hr
    exact (h.range_later hd he).2.2
  case settled =>
    intro e he
    rw [hlog]
    rcases hmem he with he | rfl
    · exact h.settled e he
    · exact ⟨hrange.2, hd.read⟩
  case reads =>
    intro e he
    rcases hmem he with he | rfl
    · exact h.reads e he
    · exact hd.reads_eq
  case loads =>
    intro e he
    rcases hmem he with he | rfl
    · exact h.loads e he
    · exact hd.loads_eq
  case first =>
    intro e he
    rw [hd.deliveries] at he
    cases hdeliveries : c.deliveries with
    | nil =>
      rw [hdeliveries] at he
      cases he
      exact (h.range_first hd hdeliveries).2.2
    | cons f rest =>
      rw [hdeliveries] at he
      cases he
      exact h.first _ (by rw [hdeliveries]; rfl)
  case unread =>
    intro hnil
    rw [hd.deliveries] at hnil
    exact absurd hnil (List.append_ne_nil_of_right_ne_nil _ (List.cons_ne_nil _ _))
  case last =>
    intro e he
    rw [hd.deliveries, List.getLast?_concat] at he
    cases he
    exact ⟨hd.last, hd.format_upper⟩

/-- Every action keeps track, and a commit adds its rows. -/
theorem step (hsource : source.InMemory answers) (h : c.Tracks source answers chosen batches) (action : Action) :
    (c.step source action).Tracks source answers chosen (batches ++ committed [action]) := by
  have hstay {next : Consumer} (hnext : next.Tracks source answers chosen batches) :
      next.Tracks source answers chosen (batches ++ []) := by
    rw [List.append_nil]
    exact hnext
  cases action with
  | commit rows => exact h.commit rows
  | retain least => exact hstay (h.of_eq rfl rfl rfl rfl)
  | resize count => exact hstay (h.of_eq rfl rfl rfl rfl)
  | reprobe probe => exact hstay (h.of_eq rfl rfl rfl rfl)
  | resolve last => exact hstay (h.of_eq (by rw [site_resolve hsource]) rfl rfl rfl)
  | fetch limit =>
    rcases fetch_cases hsource c limit with ⟨d, hd⟩ | hfails
    · exact hstay (h.deliver hd)
    · have hcommits := congrArg Log.commits hfails.log
      have hstrategy := congrArg (fun live => Checkpoint.strategy live.toSourceSettings) hfails.live
      exact hstay (h.of_eq hcommits hstrategy hfails.last hfails.deliveries)

/-- So do all actions of a run. -/
theorem run (hsource : source.InMemory answers) (h : c.Tracks source answers chosen batches) (actions : List Action) :
    (c.run source actions).Tracks source answers chosen (batches ++ committed actions) := by
  induction actions generalizing c batches with
  | nil =>
    rw [committed, List.filterMap_nil, List.append_nil]
    exact h
  | cons action rest ih =>
    have hsplit : committed (action :: rest) = committed [action] ++ committed rest :=
      List.filterMap_append (l := [action])
    rw [hsplit, ← List.append_assoc]
    exact ih (h.step hsource action)

/-- The fetch of a range that holds a version has read. -/
theorem reads_of_holds (h : c.Tracks source answers chosen batches) {d : Delivery} (hd : d ∈ c.deliveries) {v : Int}
    (hv : d.range.holds v = true) : d.after.reads = d.before.reads ++ [(d.resolved.mode, d.range)] := by
  have hmore : ¬ d.range.caughtUp = true := by
    rw [VersionRange.caughtUp_iff]
    rw [VersionRange.holds_iff] at hv
    omega
  rw [h.reads d hd, if_neg hmore]

/-- The read gave all rows that were committed as this version, and what they bring was loaded. -/
theorem rows_of_holds (h : c.Tracks source answers chosen batches) {d : Delivery} (hd : d ∈ c.deliveries) {v : Nat}
    (hv : d.range.holds v = true) {rows : List Row} (hrows : batches[v]? = some rows) :
    ∃ read loads, d.read = .ok read ∧ rows <:+: read ∧ d.after.loaded = d.before.loaded ++ loads ∧
      ∀ path, source.Brings (answers d.before.probe) rows path → path ∈ loads.flatten := by
  obtain ⟨-, hsettled⟩ := h.settled d hd
  obtain ⟨read, loads, hread, hloaded, hbrings⟩ := h.loads d hd
  have hmem := Log.mem_numbered hrows
  rw [← h.commits] at hmem
  obtain rfl := Except.ok.inj (hread.symm.trans hsettled)
  have hinfix := Log.infix_rows hmem hv
  refine ⟨_, loads, hread, hinfix, hloaded, fun path => ?_⟩
  rintro ⟨r, hr, hrest⟩
  exact (hbrings path).mpr ⟨r, hinfix.subset hr, hrest⟩

end Tracks

/-- Whatever happens to an empty log, the settings' fetch size and the probe, and whenever versions are resolved
and fetched, the ranges of the successful fetches tile the versions from the first beginning to the current
checkpoint. Each version in between, even if it is no longer listed, is held by one range only. The fetch of that
range has read it once, which gave all its rows, and has loaded the objects of those that pass. -/
theorem consumes_exactly_once (hsource : source.InMemory answers) (live : LiveSettings)
    (scene : Scene Site) (hempty : scene.world.log = Log.empty) (actions : List Action) :
    let c := (start live .null scene).run source actions
    (∀ limit batch, ((source.fetch c.live c.last limit).runIn c.scene).1 = .ok batch →
        ∃ d, d.batch = batch ∧ (c.fetch source limit).deliveries = c.deliveries ++ [d]) ∧
      (∀ (i : Nat) (d e : Delivery), c.deliveries[i]? = some d → c.deliveries[i + 1]? = some e →
        e.range.lower = d.range.upper) ∧
      (∀ d ∈ c.deliveries, d.range.lower ≤ d.range.upper) ∧
      (∀ d, c.deliveries.head? = some d → d.BeginsBy (strategy live.toSourceSettings)) ∧
      (c.deliveries = [] → c.last = .null) ∧
      (∀ d, c.deliveries.getLast? = some d →
        c.last = .str d.batch.token ∧ startOf (normalize c.last) = .ok (some d.range.upper)) ∧
      ∀ first last, c.deliveries.head? = some first → c.deliveries.getLast? = some last →
        (∀ v, (∃ d ∈ c.deliveries, d.range.holds v = true) ↔
          first.range.lower < v ∧ v ≤ last.range.upper) ∧
        ∀ (v : Nat) rows, (committed actions)[v]? = some rows →
          first.range.lower < v → v ≤ last.range.upper →
            ∃ (i : Nat) (d : Delivery), c.deliveries[i]? = some d ∧
              (∀ (j : Nat) (e : Delivery), c.deliveries[j]? = some e →
                (e.range.holds v = true ↔ j = i)) ∧
              d.after.reads = d.before.reads ++ [(d.resolved.mode, d.range)] ∧
              ∃ read loads, d.read = .ok read ∧ rows <:+: read ∧ d.after.loaded = d.before.loaded ++ loads ∧
                ∀ path, source.Brings (answers d.before.probe) rows path → path ∈ loads.flatten := by
  intro c
  have h : c.Tracks source answers (strategy live.toSourceSettings) (committed actions) :=
    (tracks_start live scene hempty).run hsource actions
  refine ⟨?_, ?_, ?_, h.first, h.unread, ?_, ?_⟩
  · intro limit batch hok
    obtain ⟨d, hbatch, hd⟩ := fetch_of_ok hsource c limit hok
    exact ⟨d, hbatch, hd.deliveries⟩
  · intro i d e hd he
    exact h.tile.lower_eq (Delivery.getElem?_ranges hd) (Delivery.getElem?_ranges he)
  · intro d hd
    exact h.tile.forward _ (List.mem_map_of_mem hd)
  · intro d hd
    obtain ⟨hlast, hformat⟩ := h.last d hd
    have hstart := startOf_format hformat
    rw [← hlast] at hstart
    exact ⟨hlast, hstart⟩
  intro first last hfirst hlast
  have hhead : (c.deliveries.map Delivery.range).head? = some first.range := by
    rw [List.head?_map, hfirst, Option.map_some]
  have hholds (v : Int) : (∃ d ∈ c.deliveries, d.range.holds v = true) ↔
      first.range.lower < v ∧ v ≤ last.range.upper := by
    rw [← h.tile.exists_holds_iff hhead (Delivery.getLast?_ranges hlast)]
    exact Delivery.exists_holds_ranges.symm
  refine ⟨hholds, ?_⟩
  intro v rows hrows hlower hupper
  obtain ⟨d, hd, hv⟩ := (hholds v).mpr ⟨hlower, hupper⟩
  obtain ⟨i, hi⟩ := List.mem_iff_getElem?.mp hd
  refine ⟨i, d, hi, fun j e hj => ?_, h.reads_of_holds hd hv, h.rows_of_holds hd hv hrows⟩
  constructor
  · intro he
    exact h.tile.eq_of_holds (Delivery.getElem?_ranges hj) (Delivery.getElem?_ranges hi) he hv
  · rintro rfl
    rw [hi] at hj
    cases hj
    exact hv

/-- Five commits of rows and three fetches between them, while old versions are dropped. -/
def busyRun : List Action :=
  [.commit [⟨some "landing", some "in/a.parquet", .whole 3⟩], .commit [⟨some "landing", none, .whole 1⟩], .retain 1,
    .fetch .null,
    .commit [⟨some "landing", some "in/b.parquet", .whole 4⟩], .retain 2, .resize 1, .fetch (.int 7),
    .commit [⟨some "landing", some "in/c%20d.parquet", .whole 2⟩, ⟨some "landing", some "in/e.parquet", .whole 0⟩],
    .commit [⟨some "landing", some "in/a.parquet", .whole 9⟩], .retain 4, .resolve .null, .fetch .null]

/-- The ranges of the fetches, their modes and their tokens. -/
def legs (c : Consumer) : List (VersionRange × ReadMode × String) :=
  c.deliveries.map fun d => (d.range, d.resolved.mode, d.batch.token)

theorem legs_busyRun :
    ((start Source.readingAll .null (Scene.start {})).run Source.openSource busyRun).legs =
      [(⟨-1, 1⟩, .snapshot, "1"), (⟨1, 2⟩, .incremental, "2"), (⟨2, 4⟩, .snapshot, "4")] := by
  decide +kernel

/-- The third fetch takes two versions of which one is not listed any more, and loads an object of that one. -/
theorem consumes_exactly_once_busyRun :
    Source.openSource.InMemory Probe.presence ∧ (Scene.start ({} : Site)).world.log = Log.empty ∧
      let c := (start Source.readingAll .null (Scene.start {})).run Source.openSource busyRun
      c.legs = [(⟨-1, 1⟩, .snapshot, "1"), (⟨1, 2⟩, .incremental, "2"), (⟨2, 4⟩, .snapshot, "4")] ∧
        ∃ d, c.deliveries[2]? = some d ∧
          (∀ (j : Nat) (e : Delivery), c.deliveries[j]? = some e → (e.range.holds 3 = true ↔ j = 2)) ∧
          d.after.reads = d.before.reads ++ [(.snapshot, ⟨2, 4⟩)] ∧
          ∃ read loads, d.read = .ok read ∧
            [⟨some "landing", some "in/c%20d.parquet", .whole 2⟩, ⟨some "landing", some "in/e.parquet", .whole 0⟩] <:+:
              read ∧
            d.after.loaded = d.before.loaded ++ loads ∧ "s3://landing/in/c d.parquet" ∈ loads.flatten := by
  have hsource := Source.inMemory_openSource
  refine ⟨hsource, rfl, legs_busyRun, ?_⟩
  obtain ⟨-, -, -, -, -, -, honce⟩ := consumes_exactly_once hsource Source.readingAll (Scene.start {}) rfl busyRun
  have hlegs := legs_busyRun
  generalize (start Source.readingAll .null (Scene.start {})).run Source.openSource busyRun = c at honce hlegs ⊢
  obtain ⟨first, second, third, hthree⟩ : ∃ first second third, c.deliveries = [first, second, third] := by
    have hlength := congrArg List.length hlegs
    rw [legs, List.length_map] at hlength
    exact List.length_eq_three.mp hlength
  rw [legs, hthree] at hlegs
  simp only [List.map_cons, List.map_nil, List.cons.injEq, Prod.mk.injEq, and_true] at hlegs
  obtain ⟨⟨hrangeFirst, -⟩, ⟨hrangeSecond, -⟩, hrange, hmode, -⟩ := hlegs
  rw [hthree] at honce ⊢
  obtain ⟨-, hread⟩ := honce first third rfl rfl
  rw [hrangeFirst, hrange] at hread
  obtain ⟨i, d, hd, hholds, hreads, read, loads, hgave, hrows, hloaded, hbrought⟩ :=
    hread 3 _ rfl (by decide) (by decide)
  have hthird : 2 = i := (hholds 2 third rfl).mp (by rw [hrange]; rfl)
  subst hthird
  obtain rfl : third = d := Option.some.inj hd
  rw [hmode, hrange] at hreads
  refine ⟨third, rfl, hholds, hreads, read, loads, hgave, hrows, hloaded, hbrought _ ?_⟩
  refine ⟨_, List.mem_cons_self .., rfl, ⟨"landing", "in/c%20d.parquet"⟩, rfl, rfl, ?_, fun h => nomatch h⟩
  exact decode_build_eq_ok_iff.mp (Work.eq_ok_of_toOption (by decide +kernel))

end Consumer
end ObjectIntake
