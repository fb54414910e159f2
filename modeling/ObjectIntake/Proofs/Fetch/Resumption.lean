import ObjectIntake.Proofs.Checkpoint.Token
import ObjectIntake.Proofs.Metrics
import ObjectIntake.Proofs.Version.Backlog
import ObjectIntake.Fetch

/-!
Going on from a checkpoint when there is nothing to read. However the checkpoint is spelled, a fetch hands out the
canonical token of its version, and as long as the log lists the same versions it stays there.
-/
namespace ObjectIntake
open Settings Checkpoint

instance (n : Int) : Decidable (Figure.Overflows n) := inferInstanceAs (Decidable (_ = none))

namespace Source

variable {W Rows Data : Type}

/-- What a fetch hands out at a version when it has no data: the token, unless the fetch is to be recorded with a
version that no double holds. -/
def rest (source : Source W Rows Data) (version : Int) (token : String) : Except Failure (Batch Data) :=
  if source.metered = true ∧ Figure.Overflows version then .error .tooLarge else .ok ⟨none, token⟩

theorem rest_eq_ok_iff {source : Source W Rows Data} {v : Int} {token : String} :
    source.rest v token = .ok ⟨none, token⟩ ↔ ¬ (source.metered = true ∧ Figure.Overflows v) := by
  unfold rest
  split
  next hover => simp [hover]
  next hfits => simp [hfits]

/-- Under these settings a checkpoint resolves, and the log lists these versions in worlds of some kind. -/
structure Watches (source : Source W Rows Data) (versions : List Int) (kind : W → Prop) (live : LiveSettings) :
    Prop where
  configured : Configured live
  sizeCheck : live.check .sizeCheck = .ok ()
  sizeCount : live.check .sizeCount = .ok ()
  positive : 1 ≤ live.fetchSize
  lists : ∀ basePath, live.basePath = some basePath → Lists source.platform basePath versions kind

/-- The checkpoint resolves to an empty range, after which this is the token. -/
def CaughtUp (source : Source W Rows Data) (live : LiveSettings) (last : Json) (scene : Scene W) (token : String) :
    Prop :=
  ∃ resolved, ((source.resolve live last).runIn scene).1 = .ok resolved ∧ resolved.range.caughtUp = true ∧
    resolved.token = token

/-- A fetch that is caught up at a version, and leads to a world of the same kind. -/
structure Rests (source : Source W Rows Data) (kind : W → Prop) (live : LiveSettings) (last limit : Json)
    (scene : Scene W) (version : Int) (token : String) : Prop where
  caughtUp : source.CaughtUp live last scene token
  result : ((source.fetch live last limit).runIn scene).1 = source.rest version token
  world : kind ((source.fetch live last limit).runIn scene).2.world

section Stages

variable {source : Source W Rows Data} (w : W)

theorem meter_gives {f : Registry → Registry × Except Failure Unit} {r : Except Failure Unit}
    (hf : source.metered = true → ∀ registry, (f registry).2 = r) (hquiet : source.metered = false → r = .ok ()) :
    (source.meter f).Gives w r w := by
  unfold meter
  cases hmetered : source.metered with
  | false =>
    rw [if_neg Bool.false_ne_true, hquiet hmetered]
    exact Work.Gives.pure ()
  | true =>
    rw [if_pos rfl]
    exact fun scene hscene => ⟨hf hmetered scene.registry, hscene⟩

theorem finish_rests (live : LiveSettings) (outcome : Outcome) (resolved : Resolved) :
    (source.finish live outcome resolved none).Gives w (source.rest resolved.range.upper resolved.token) w := by
  have hcount : (source.count outcome).Gives w (.ok ()) w :=
    Work.Gives.bind_elapsed fun _ => meter_gives w (fun _ _ => rfl) fun _ => rfl
  have haccounts := Registry.accounts_recordVersion (live.basePath.getD "") resolved.range.upper
  unfold finish rest
  by_cases hover : source.metered = true ∧ Figure.Overflows resolved.range.upper
  · rw [if_pos hover]
    refine hcount.bind (Work.Gives.bind_error (meter_gives w (fun _ => haccounts.refused ?_) fun hquiet => ?_))
    · exact ⟨_, List.mem_singleton.mpr rfl, hover.2⟩
    · cases hover.1.symm.trans hquiet
  · rw [if_neg hover]
    refine hcount.bind ((meter_gives w (fun hmetered => haccounts.accepted ?_) fun _ => rfl).bind ?_)
    · rintro ⟨n, hn, hoverflows⟩
      obtain rfl := List.mem_singleton.mp hn
      exact hover ⟨hmetered, hoverflows⟩
    · exact (Work.Gives.write _).bind (Work.Gives.pure _)

theorem fetchRange_rests (live : LiveSettings) {resolved : Resolved} (h : resolved.range.caughtUp = true)
    (hwritable : resolved.range.Writable) :
    (source.fetchRange live resolved).Gives w (source.rest resolved.range.upper resolved.token) w := by
  unfold fetchRange
  rw [if_pos h, Numeral.written_of_writable hwritable.1]
  exact (Work.Gives.tell_ok rfl).bind (finish_rests w live .caughtUp resolved)

end Stages

variable {source : Source W Rows Data} {versions : List Int} {kind : W → Prop} {live : LiveSettings}

/-- A fetch whose checkpoint resolves to an empty range. -/
theorem rests_of_resolution
    (hlists : ∀ basePath, live.basePath = some basePath → Lists source.platform basePath versions kind)
    {last : Json} {resolved : Resolved} (h : resolution versions live last = .ok resolved)
    (hcaught : resolved.range.caughtUp = true) {limit : Json} (hlimit : limit.isWritable = true) {scene : Scene W}
    (hscene : kind scene.world) :
    source.Rests kind live last limit scene resolved.range.upper resolved.token := by
  obtain ⟨after, hafter, hresolve⟩ := resolve_stays hlists source.channel last hscene
  rw [h] at hresolve
  have hwork : (source.resolve live last >>= source.fetchRange live).Gives scene.world
      (source.rest resolved.range.upper resolved.token) after :=
    hresolve.bind (fetchRange_rests after live hcaught (writable_of_resolution h))
  have hfetch : (source.fetch live last limit).Gives scene.world
      (source.rest resolved.range.upper resolved.token) after := by
    unfold fetch
    rw [Json.writtenAs_of_isWritable (checkpoint_isWritable h), Json.writtenAs_of_isWritable hlimit]
    refine (Work.Gives.ofExcept _).bind ((Work.Gives.ofExcept _).bind ((Work.Gives.log _ _ _).bind ?_))
    cases hrest : source.rest resolved.range.upper resolved.token with
    | ok batch => exact (hrest ▸ hwork).catch_ok
    | error e =>
      -- The only failure is one that is not reported.
      have hunreported : e.isReported = false := by
        unfold rest at hrest
        split at hrest
        · cases hrest
          rfl
        · cases hrest
      refine (hrest ▸ hwork).catch_error ?_
      rw [hunreported]
      exact Work.Gives.throw e
  exact ⟨⟨resolved, hresolve.result_eq rfl, hcaught, rfl⟩, hfetch.result_eq rfl, hfetch.world_eq rfl ▸ hafter⟩

/-- No version is listed after this one, so that nothing is left to be read from there. -/
structure Exhausts (versions : List Int) (v : Int) : Prop where
  listed : versions ≠ []
  above : Version.above (Version.ascending versions) v = []

/-- Where a checkpoint of a version is caught up, the version is the end of the log. -/
theorem exhausts_of_caughtUp {t : String} {v : Int} (hparse : parse (.str t) = .ok v) {resolved : Resolved}
    (h : resolution versions live (.str t) = .ok resolved) (hcaught : resolved.range.caughtUp = true) :
    Exhausts versions v := by
  obtain ⟨-, -, hpositive, lower, plan, hlower, -, hplan, -, hrange, -⟩ := resolution_eq_ok.mp h
  rw [startOf_of_parse hparse, Except.ok.injEq] at hlower
  obtain ⟨hlisted, ⟨l, hl, hplanned⟩ | ⟨_, _, hnone, -⟩⟩ := Version.plan_ok hplan
  · obtain rfl : v = l := Option.some.inj (hlower.trans hl)
    rw [← hrange, hplanned, VersionRange.caughtUp_iff] at hcaught
    have hadvances : Version.Advances (Version.ascending versions) v _ := Version.advances_upperAfter hpositive
    exact ⟨hlisted, hadvances.eq_iff.mp hcaught⟩
  · rw [hnone] at hlower
    cases hlower

/-- The settings under which a token resolved are fit for it, and for others. -/
theorem watches_of_resolution {t : String} {v : Int} (hparse : parse (.str t) = .ok v) {resolved : Resolved}
    (h : resolution versions live (.str t) = .ok resolved)
    (hlists : ∀ basePath, live.basePath = some basePath → Lists source.platform basePath versions kind) :
    source.Watches versions kind live := by
  obtain ⟨hconfigured, hcheck, hpositive, lower, plan, hlower, hcount, hplan, -⟩ := resolution_eq_ok.mp h
  rw [startOf_of_parse hparse, Except.ok.injEq] at hlower
  exact ⟨hconfigured, hcheck, hcount (hlower ▸ rfl) (Version.plan_ok hplan).1, hpositive, hlists⟩

/-- At the last version nothing is left to be read, however the checkpoint spells it. -/
theorem Watches.resolution_token (hwatch : source.Watches versions kind live) {t : String} {v : Int} {token : String}
    (hparse : parse (.str t) = .ok v) (htoken : format v = .ok token) (hend : Exhausts versions v) :
    ∃ resolved, resolution versions live (.str t) = .ok resolved ∧ resolved.range = ⟨v, v⟩ ∧
      resolved.token = token := by
  have hupper : Version.upperAfter (Version.ascending versions) live.fetchSize v = v :=
    Version.upperAfter_of_above_eq_nil hwatch.positive hend.above
  have hlast : (Json.str t).isWritable = true := rfl
  obtain ⟨mode, hresolved⟩ := resolution_after hwatch.configured hwatch.sizeCheck hwatch.sizeCount hwatch.positive
    hend.listed hlast (startOf_of_parse hparse) (Numeral.written_eq_ok_iff.mp htoken).1
    (by rw [hupper]; exact htoken)
  rw [hupper] at hresolved
  exact ⟨_, hresolved, rfl, rfl⟩

/-- A fetch from the last version rests there. -/
theorem Watches.rests (hwatch : source.Watches versions kind live) {t : String} {v : Int} {token : String}
    (hparse : parse (.str t) = .ok v) (htoken : format v = .ok token) (hend : Exhausts versions v) {limit : Json}
    (hlimit : limit.isWritable = true) {scene : Scene W} (hscene : kind scene.world) :
    source.Rests kind live (.str t) limit scene v token := by
  obtain ⟨resolved, hresolved, hrange, rfl⟩ := hwatch.resolution_token hparse htoken hend
  have hcaught : resolved.range.caughtUp = true := by rw [hrange, VersionRange.caughtUp_iff]
  have hrests := rests_of_resolution hwatch.lists hresolved hcaught hlimit hscene
  rwa [hrange] at hrests

/-- A later fetch: its settings and its limit, and what happens before it. -/
structure Turn (W : Type) where
  live : LiveSettings
  limit : Json
  meanwhile : Scene W → Scene W

/-- The results of fetches that come one after the other. Each goes on from the checkpoint handed out last. -/
def follow (source : Source W Rows Data) : List (Turn W) → String → Scene W → List (Except Failure (Batch Data))
  | [], _, _ => []
  | turn :: turns, token, scene =>
      let run := (source.fetch turn.live (.str token) turn.limit).runIn (turn.meanwhile scene)
      run.1 :: source.follow turns ((run.1.toOption.map (·.token)).getD token) run.2

/-- Before and in the turn the log stays as it is, and the limit can be told of. -/
structure Turn.Watches (turn : Turn W) (source : Source W Rows Data) (versions : List Int) (kind : W → Prop) :
    Prop where
  settings : source.Watches versions kind turn.live
  limit : turn.limit.isWritable = true
  meanwhile : ∀ scene, kind scene.world → kind (turn.meanwhile scene).world

/-- From the token of the last version all fetches rest, as long as the log stays as it is. -/
theorem follow_rests {v : Int} {token : String} (htoken : format v = .ok token) (hend : Exhausts versions v)
    {turns : List (Turn W)} (hturns : ∀ turn ∈ turns, turn.Watches source versions kind) {scene : Scene W}
    (hscene : kind scene.world) : ∀ r ∈ source.follow turns token scene, r = source.rest v token := by
  induction turns generalizing scene with
  | nil => simp [follow]
  | cons turn turns ih =>
    have hturn := hturns turn (List.mem_cons_self ..)
    have hrests := hturn.settings.rests (parse_format htoken) htoken hend hturn.limit (hturn.meanwhile scene hscene)
    have hnext : ((source.rest v token).toOption.map (·.token)).getD token = token := by
      unfold rest
      split <;> rfl
    intro r hr
    rw [follow, hrests.result, hnext] at hr
    rcases List.mem_cons.mp hr with rfl | hr
    · rfl
    · exact ih (fun other hother => hturns other (List.mem_cons_of_mem _ hother)) hrests.world r hr

/-- Every version of as many digits as can be written has a token that is read back, and no two have the same one. Any
text is refused as a token, with a message that quotes it, or it has a version whose token is canonical and is
read back. A fetch from such a text that is caught up hands that token out, and from there each fetch does so
again while the log stays as it is. Only where fetches are recorded, and no double holds the version, it fails
instead. -/
theorem tokens_round_trip {W Rows Data : Type} (source : Source W Rows Data) (t : String) :
    (∀ v : Int, Numeral.digitCount v ≤ Numeral.digitLimit →
      ∃ token, format v = .ok token ∧ parse (.str token) = .ok v) ∧
    (∀ v w token, format v = .ok token → format w = .ok token → v = w) ∧
    ((parse (.str t) = .error (.resolution (.notAToken (.str t))) ∧
        (ResolutionFault.notAToken (.str t)).message = "Invalid checkpoint token: " ++ Text.quoted t) ∨
      ∃ v token, parse (.str t) = .ok v ∧ format v = .ok token ∧ parse (.str token) = .ok v ∧
        Numeral.Canonical token.toList ∧
        (source.rest v token = .ok ⟨none, token⟩ ↔ ¬ (source.metered = true ∧ Figure.Overflows v)) ∧
        ∀ (versions : List Int) (kind : W → Prop) (live : LiveSettings) (limit : Json) (scene : Scene W)
          (caught : String),
          (∀ basePath, live.basePath = some basePath → Lists source.platform basePath versions kind) →
            limit.isWritable = true → kind scene.world → source.CaughtUp live (.str t) scene caught →
            source.Rests kind live (.str t) limit scene v token ∧ source.Watches versions kind live ∧
            (∀ other limit later, source.Watches versions kind other → limit.isWritable = true → kind later.world →
              source.Rests kind other (.str token) limit later v token) ∧
            ∀ turns later, (∀ turn ∈ turns, Turn.Watches turn source versions kind) → kind later.world →
              ∀ r ∈ source.follow turns token later, r = source.rest v token) := by
  refine ⟨?_, fun v w token => format_injective, ?_⟩
  · intro v hv
    have hformat : format v = .ok (Numeral.text v) := format_eq_ok_iff.mpr ⟨Numeral.writable_iff.mpr hv, rfl⟩
    exact ⟨_, hformat, parse_format hformat⟩
  rcases parse_str_cases t with hrefused | ⟨v, hparse, hformat⟩
  · exact .inl ⟨hrefused, rfl⟩
  have hagain := parse_format hformat
  refine .inr ⟨v, _, hparse, hformat, hagain, canonical_of_format hformat, rest_eq_ok_iff, ?_⟩
  rintro versions kind live limit scene caught hlists hlimit hscene ⟨resolved, hrun, hcaught, -⟩
  obtain ⟨_, -, hresolve⟩ := resolve_stays hlists source.channel (.str t) hscene
  have hresolved := (hresolve.result_eq rfl).symm.trans hrun
  have hend := exhausts_of_caughtUp hparse hresolved hcaught
  have hwatch := watches_of_resolution hparse hresolved hlists
  refine ⟨hwatch.rests hparse hformat hend hlimit hscene, hwatch, ?_, ?_⟩
  · exact fun other limit later hother hlimit hlater => hother.rests hagain hformat hend hlimit hlater
  · exact fun turns later hturns hlater => follow_rests hformat hend hturns hlater

/-- A site whose log lists the version seven only. -/
def sevenSite : Memory.Site := { log := Memory.Log.empty.put 7 [] }

def sevenSettings : LiveSettings := SourceSettings.live { basePath := some "lake" }

/-- A source in memory that records its fetches or does not. -/
def bookkeeper (metered : Bool) : Source Memory.Site (List Event.Row) Dataset.Table :=
  ⟨Memory.platform, {}, ⟨"s3", false, 1, "source"⟩, "source", metered⟩

theorem watches_bookkeeper (metered : Bool) :
    (bookkeeper metered).Watches [7] (fun site => site.log.versions = [7]) sevenSettings where
  configured := ⟨⟨"lake", rfl⟩, rfl⟩
  sizeCheck := rfl
  sizeCount := rfl
  positive := by decide
  lists basePath _ := lists_probing Memory.Probe.presence basePath [7]

theorem versions_sevenSite : sevenSite.log.versions = [7] := Version.ascending_eq_self (List.pairwise_singleton _ _)

theorem exhausts_seven {v : Int} (h : 7 ≤ v) : Exhausts [7] v where
  listed := by decide
  above := by
    rw [Version.ascending_eq_self (List.pairwise_singleton _ _), Version.above_eq_nil]
    simpa using h

/-- From seven, spelled with white space, a sign, zeros and an underscore, the canonical token is handed out. -/
theorem tokens_round_trip_seven :
    Numeral.digitCount 7 ≤ Numeral.digitLimit ∧ (∃ token, format 7 = .ok token ∧ parse (.str token) = .ok 7) ∧
      (bookkeeper false).CaughtUp sevenSettings (.str " +0_07\n") (Scene.start sevenSite) "7" ∧
      (((bookkeeper false).fetch sevenSettings (.str " +0_07\n") .null).runIn (Scene.start sevenSite)).1 =
        .ok ⟨none, "7"⟩ := by
  obtain ⟨hwrite, -, hread⟩ := tokens_round_trip (bookkeeper false) " +0_07\n"
  have hdigits : Numeral.digitCount 7 ≤ Numeral.digitLimit := by decide
  have hparse : parse (.str " +0_07\n") = .ok 7 := rfl
  have hwatch := watches_bookkeeper false
  have hrests : (bookkeeper false).Rests _ sevenSettings _ .null (Scene.start sevenSite) 7 "7" :=
    hwatch.rests hparse rfl (exhausts_seven le_rfl) rfl versions_sevenSite
  have hcaught := hrests.caughtUp
  refine ⟨hdigits, hwrite 7 hdigits, hcaught, ?_⟩
  rcases hread with ⟨hrefused, -⟩ | ⟨v, token, hv, htoken, -, -, -, hfetch⟩
  · cases hparse.symm.trans hrefused
  · cases hparse.symm.trans hv
    cases (show format 7 = .ok "7" from rfl).symm.trans htoken
    exact (hfetch [7] _ sevenSettings .null _ "7" hwatch.lists rfl versions_sevenSite hcaught).1.result

/-- With its fetches recorded, the same source is caught up at a version of 310 digits, and hands out nothing. -/
theorem rest_refused :
    ∃ token, format (10 ^ 309) = .ok token ∧
      (bookkeeper true).CaughtUp sevenSettings (.str token) (Scene.start sevenSite) token ∧
      (((bookkeeper true).fetch sevenSettings (.str token) .null).runIn (Scene.start sevenSite)).1 =
        .error .tooLarge := by
  have hformat : format (10 ^ 309) = .ok (Numeral.text (10 ^ 309)) :=
    format_eq_ok_iff.mpr ⟨by decide +kernel, rfl⟩
  have hover : Figure.Overflows (10 ^ 309) := by decide +kernel
  have hrests : (bookkeeper true).Rests _ sevenSettings _ .null (Scene.start sevenSite) (10 ^ 309) _ :=
    (watches_bookkeeper true).rests (parse_format hformat) hformat (exhausts_seven (by decide +kernel)) rfl
      versions_sevenSite
  refine ⟨_, hformat, hrests.caughtUp, ?_⟩
  rw [hrests.result, rest, if_pos ⟨rfl, hover⟩]

end Source
end ObjectIntake
