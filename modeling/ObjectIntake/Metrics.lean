import ObjectIntake.Failure

/-!
Counts of fetches and files, durations, and the version that each change log has reached. All values are
doubles, so counts are exact below 2 ^ 53.
-/
namespace ObjectIntake
open Numeral

structure Histogram where
  /-- How many observations fell under each bound and above the one before it. -/
  counts : List Nat
  sum : Float

namespace Histogram

/-- The bounds, and how they are written. -/
def bounds : List (Float × String) :=
  [(0.1, "0.1"), (0.5, "0.5"), (1.0, "1.0"), (5.0, "5.0"), (10.0, "10.0"), (30.0, "30.0"),
    (60.0, "60.0"), (120.0, "120.0"), (300.0, "300.0"), (1.0 / 0.0, "+Inf")]

def empty : Histogram := ⟨bounds.map fun _ => 0, 0.0⟩

/-- Counts an observation under the first bound that it does not exceed. -/
def tally (x : Float) : List (Float × String) → List Nat → List Nat
  | (bound, _) :: bounds, n :: counts =>
      if x ≤ bound then (n + 1) :: counts else n :: tally x bounds counts
  | _, counts => counts

def observe (h : Histogram) (x : Float) : Histogram := ⟨tally x bounds h.counts, h.sum + x⟩

def count (h : Histogram) : Nat := h.counts.foldl (· + ·) 0

def cumulative (total : Nat) : List Nat → List Nat
  | [] => []
  | n :: rest => (total + n) :: cumulative (total + n) rest

end Histogram

/-- A number as a double holds it. Whole ones are kept as integers, so counts add up as integers do. -/
inductive Figure where
  | whole (n : Int)
  | other (x : Float)

namespace Figure

def ofFloat (x : Float) : Figure :=
  match Binary64.isIntegral x, Binary64.truncate? x with
  | true, some n => whole n
  | _, _ => other x

def toFloat : Figure → Float
  | whole n => Binary64.ofRatio (n < 0) n.natAbs 1
  | other x => x

def isNegative : Figure → Bool
  | whole n => n < 0
  | other x => x < 0.0

/-- The nearest double; none if a whole number is beyond all of them. -/
def round? : Figure → Option Figure
  | whole n => (Binary64.roundInt? n).map whole
  | other x => some (other x)

theorem round?_whole_of_natAbs_lt {n : Int} (h : n.natAbs < twoTo 53) : (whole n).round? = some (whole n) := by
  rw [round?, Binary64.roundInt?_of_natAbs_lt h, Option.map_some]

/-- The sum, rounded to a double. It is infinite beyond all of them. -/
def add : Figure → Figure → Figure
  | whole m, whole n => ((whole (m + n)).round?).getD (ofFloat ((whole m).toFloat + (whole n).toFloat))
  | a, b => ofFloat (a.toFloat + b.toFloat)

theorem add_whole_of_natAbs_lt {m n : Int} (h : (m + n).natAbs < twoTo 53) :
    (whole m).add (whole n) = whole (m + n) := by
  rw [add, round?_whole_of_natAbs_lt h, Option.getD_some]

/-- A whole number has no point. -/
def text : Figure → String
  | whole n => Numeral.text n
  | other x => Shortest.text Shortest.plain x

end Figure

structure Registry where
  /-- Fetches by outcome. -/
  batches : Keyed Figure
  durations : Histogram
  /-- The last version by change log. -/
  reached : Keyed Figure
  extracted : Figure
  loaded : Figure
  /-- Paths that were dropped, by reason. -/
  dropped : Keyed Figure

structure Sample where
  name : String
  labels : Keyed String
  value : String

namespace Registry

def empty : Registry := ⟨[], Histogram.empty, [], .whole 0, .whole 0, []⟩

/-- A count increased by an amount that is not negative. -/
def increase (count amount : Figure) : Except Failure Figure :=
  if amount.isNegative then .error .negativeIncrement
  else match amount.round? with
    | some amount => .ok (count.add amount)
    | none => .error .tooLarge

/-- A labelled count increased by an amount. It is there from now on, even if that fails. -/
def increaseAt (counts : Keyed Figure) (label : String) (amount : Figure) :
    Keyed Figure × Except Failure Unit :=
  let count := (counts.get? label).getD (.whole 0)
  match increase count amount with
  | .ok n => (counts.put label n, .ok ())
  | .error e => (counts.put label count, .error e)

def countBatch (r : Registry) (outcome : String) : Registry :=
  { r with batches := (increaseAt r.batches outcome (.whole 1)).1 }

def recordBatch (r : Registry) (outcome : String) (seconds : Float) : Registry :=
  { r.countBatch outcome with durations := r.durations.observe seconds }

/-- Lists a change log, with the version zero if none is known of it. -/
def listPath (r : Registry) (basePath : String) : Registry :=
  { r with reached := r.reached.put basePath ((r.reached.get? basePath).getD (.whole 0)) }

/-- The version reached, rounded to a double. The change log is listed even if there is none. -/
def recordVersion (r : Registry) (basePath : String) (version : Figure) : Registry × Except Failure Unit :=
  match version.round? with
  | some v => ({ r with reached := r.reached.put basePath v }, .ok ())
  | none => (r.listPath basePath, .error .tooLarge)

def countExtracted (r : Registry) (n : Figure) : Registry × Except Failure Unit :=
  match increase r.extracted n with
  | .ok total => ({ r with extracted := total }, .ok ())
  | .error e => (r, .error e)

def countLoaded (r : Registry) (n : Figure) : Registry × Except Failure Unit :=
  match increase r.loaded n with
  | .ok total => ({ r with loaded := total }, .ok ())
  | .error e => (r, .error e)

/-- Counts the files of a batch: those extracted, then those loaded. -/
def recordFiles (r : Registry) (extracted loaded : Figure) : Registry × Except Failure Unit :=
  match r.countExtracted extracted with
  | (r, .ok _) => r.countLoaded loaded
  | (r, .error e) => (r, .error e)

/-- Counts dropped paths reason by reason, up to the first count that is not accepted. -/
def recordDropped (r : Registry) : List (String × Figure) → Registry × Except Failure Unit
  | [] => (r, .ok ())
  | (_, .whole 0) :: rest => recordDropped r rest
  | (reason, n) :: rest =>
      match increaseAt r.dropped reason n with
      | (dropped, .ok _) => recordDropped { r with dropped := dropped } rest
      | (dropped, .error e) => ({ r with dropped := dropped }, .error e)

def labelText (labels : Keyed String) : String :=
  Json.text Json.ascii (.obj (labels.map fun (k, v) => (k, .str v)))

/-- By name, then by the text of the labels. -/
def Sample.precedes (a b : Sample) : Bool :=
  a.name < b.name || (a.name = b.name && labelText a.labels ≤ labelText b.labels)

def samples (r : Registry) : List Sample :=
  let duration := "s3incr_fetch_duration_seconds"
  let all : List Sample :=
    r.batches.map (fun (k, n) => ⟨"s3incr_batches_total", [("outcome", k)], n.text⟩) ++
      r.reached.map (fun (k, v) => ⟨"s3incr_checkpoint_version", [("base_path", k)], v.text⟩) ++
      List.zipWith (fun (_, le) n => ⟨duration ++ "_bucket", [("le", le)], toString n⟩)
        Histogram.bounds (Histogram.cumulative 0 r.durations.counts) ++
      [⟨duration ++ "_count", [], toString r.durations.count⟩,
        ⟨duration ++ "_sum", [], (Figure.ofFloat r.durations.sum).text⟩,
        ⟨"s3incr_files_extracted_total", [], r.extracted.text⟩,
        ⟨"s3incr_files_loaded_total", [], r.loaded.text⟩] ++
      r.dropped.map (fun (k, n) => ⟨"s3incr_paths_dropped_total", [("reason", k)], n.text⟩)
  all.mergeSort Sample.precedes

end Registry
end ObjectIntake
