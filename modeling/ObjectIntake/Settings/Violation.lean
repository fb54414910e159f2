/-! What is wrong with the value given for a setting, and where. -/
namespace ObjectIntake.Settings

inductive Violation where
  | integerExpected
  | integerSpelling
  | integerTooLarge
  | fractionalPart
  | notFinite
  | belowOne
  | booleanExpected
  | booleanSpelling
  | textExpected
  | strategyExpected
  /-- A group of settings is given by something else than a mapping. -/
  | groupExpected (group : String)
  | unknownName
  deriving DecidableEq

namespace Violation

/-- The short name of the rule that is broken. -/
def code : Violation → String
  | integerExpected => "int_type"
  | integerSpelling => "int_parsing"
  | integerTooLarge => "int_parsing_size"
  | fractionalPart => "int_from_float"
  | notFinite => "finite_number"
  | belowOne => "greater_than_equal"
  | booleanExpected => "bool_type"
  | booleanSpelling => "bool_parsing"
  | textExpected => "string_type"
  | strategyExpected => "enum"
  | groupExpected _ => "model_type"
  | unknownName => "extra_forbidden"

def message : Violation → String
  | integerExpected => "Input should be a valid integer"
  | integerSpelling => "Input should be a valid integer, unable to parse string as an integer"
  | integerTooLarge => "Unable to parse input string as an integer, exceeded maximum size"
  | fractionalPart => "Input should be a valid integer, got a number with a fractional part"
  | notFinite => "Input should be a finite number"
  | belowOne => "Input should be greater than or equal to 1"
  | booleanExpected => "Input should be a valid boolean"
  | booleanSpelling => "Input should be a valid boolean, unable to interpret input"
  | textExpected => "Input should be a valid string"
  | strategyExpected => "Input should be 'READ_LATEST' or 'READ_UPTO_LATEST_COMMIT'"
  | groupExpected group => "Input should be a valid dictionary or instance of " ++ group
  | unknownName => "Extra inputs are not permitted"

end Violation

/-- A violation at a setting; groups of settings come before their members. -/
structure Issue where
  location : List String
  violation : Violation
  deriving DecidableEq

def Issue.field (issue : Issue) : String := String.intercalate "." issue.location

def Issue.within (group : String) (issue : Issue) : Issue :=
  { issue with location := group :: issue.location }

end ObjectIntake.Settings
