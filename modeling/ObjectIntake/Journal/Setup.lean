import ObjectIntake.Journal
import ObjectIntake.Journal.Threshold

/-! How records are written once logging has been set up. -/
namespace ObjectIntake.Journal

/-- Where records are written to. -/
structure Handler where
  level : Int
  /-- Records are written as lines of JSON. -/
  structured : Bool

structure Setup where
  level : Int
  handlers : List Handler
  /-- The levels of channels that have their own. -/
  own : Keyed Int

namespace Setup

/-- Before anything is set up. -/
def initial : Setup := ⟨Level.warning.rank, [], []⟩

/-- The channels of the engine, of which only warnings are written. -/
def quietChannels : List String := ["py4j", "pyspark"]

/-- One handler takes the place of all others and has the level that is asked for. -/
def change (s : Setup) (asked : Option String) (d : Settings.Deployment) : Except Failure Setup := do
  let level ← choose asked d
  return {
    level := level
    handlers := [⟨level, true⟩]
    own := s.own.merge (quietChannels.map fun channel => (channel, Level.warning.rank)) }

end Setup
end ObjectIntake.Journal
