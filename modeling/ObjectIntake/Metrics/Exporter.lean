import ObjectIntake.Metrics
import ObjectIntake.Settings.Application

/-!
Metrics as they are recorded from outside, with values of any kind: a truth value counts as a number, and what is
none is refused where it is used. They are served on one port.
-/
namespace ObjectIntake

def Figure.ofJson : Json → Except Failure Figure
  | .int n => .ok (.whole n)
  | .bool b => .ok (.whole (if b then 1 else 0))
  | .float x => .ok (.ofFloat x)
  | _ => .error (.wrongKind "")

/-- The double for a number of seconds; an integer may be beyond all of them. -/
def secondsOf (j : Json) : Except Failure Float :=
  match j with
  | .float x => .ok x
  | .int n =>
      match Numeral.Binary64.roundInt? n with
      | some n => .ok (Numeral.Binary64.ofRatio (n < 0) n.natAbs 1)
      | none => .error .tooLarge
  | .bool b => .ok (if b then 1.0 else 0.0)
  | _ => .error (.wrongKind "")

namespace Registry

/-- Counts a batch, and then notes how long it took. -/
def takeBatch (r : Registry) (outcome : String) (seconds : Json) : Registry × Except Failure Unit :=
  match secondsOf seconds with
  | .ok seconds => (r.recordBatch outcome seconds, .ok ())
  | .error e => (r.countBatch outcome, .error e)

def takeVersion (r : Registry) (basePath : String) (version : Json) : Registry × Except Failure Unit :=
  match Figure.ofJson version with
  | .ok version => r.recordVersion basePath version
  | .error e => (r.listPath basePath, .error e)

def takeFiles (r : Registry) (extracted loaded : Json) : Registry × Except Failure Unit :=
  match Figure.ofJson extracted, Figure.ofJson loaded with
  | .error e, _ => (r, .error e)
  | .ok extracted, .ok loaded => r.recordFiles extracted loaded
  | .ok extracted, .error e =>
      match r.countExtracted extracted with
      | (r, .ok _) => (r, .error e)
      | (r, .error e) => (r, .error e)

/-- Counts drops reason by reason. A value that does not count as one is passed over, and another one that is no
number leaves its reason listed. -/
def takeDropped (r : Registry) : Keyed Json → Registry × Except Failure Unit
  | [] => (r, .ok ())
  | (reason, j) :: rest =>
      if !j.isTruthy then takeDropped r rest
      else
        match Figure.ofJson j with
        | .error e => ({ r with dropped := (increaseAt r.dropped reason (.whole 0)).1 }, .error e)
        | .ok n =>
            match r.recordDropped [(reason, n)] with
            | (r, .ok _) => takeDropped r rest
            | (r, .error e) => (r, .error e)

end Registry

structure Exporter where
  port : Json
  /-- The ports of the servers that were started. -/
  servers : List Json := []

namespace Exporter

/-- On the port asked for, unless that counts as none. -/
def make (a : Settings.Application) (asked : Json) : Exporter :=
  { port := if asked.isTruthy then asked else .int a.metricsPort }

/-- The server is started once. -/
def start (e : Exporter) : Exporter := if e.servers.isEmpty then { e with servers := [e.port] } else e

end Exporter
end ObjectIntake
