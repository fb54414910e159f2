import ObjectIntake.Json.Basic

/-! Log records, in the order in which they were written. -/
namespace ObjectIntake

inductive Level where
  | debug
  | info
  | warning
  | error
  deriving DecidableEq

namespace Level

def name : Level → String
  | debug => "DEBUG"
  | info => "INFO"
  | warning => "WARNING"
  | error => "ERROR"

def rank : Level → Int
  | debug => 10
  | info => 20
  | warning => 30
  | error => 40

end Level

structure Record where
  channel : String
  level : Level
  message : String
  extra : Keyed Json := []
  /-- Written by one of several workers that run side by side. -/
  byWorker : Bool := false

namespace Record

/-- By message, then level. -/
def precedes (a b : Record) : Bool :=
  a.message < b.message || (a.message = b.message && a.level.name ≤ b.level.name)

/-- Workers may write in any order, so each run of their records is put in one. -/
def settleFrom (run : List Record) : List Record → List Record
  | [] => run.mergeSort precedes
  | r :: rest =>
      if r.byWorker then settleFrom (r :: run) rest
      else run.mergeSort precedes ++ r :: settleFrom [] rest

def settle (journal : List Record) : List Record := settleFrom [] journal

end Record
end ObjectIntake
