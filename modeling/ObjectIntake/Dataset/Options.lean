import ObjectIntake.Failure

/-! Options for the reader of the files, given as the text of a JSON object. -/
namespace ObjectIntake.Dataset

/-- The options in a text that nests values up to `depth`; none are given by an empty text. -/
def readOptions (depth : Nat) (raw : Option String) : Except Failure (Keyed Json) :=
  match raw with
  | none => .ok []
  | some "" => .ok []
  | some raw =>
      match Json.read depth raw with
      | .ok (.obj options) => .ok options
      | .ok _ => .error (.configuration (.optionsNotObject raw))
      | .error ⟨.integerTooLong digits, _⟩ => .error (.numeralTooLong digits)
      | .error ⟨.nestedTooDeep, _⟩ => .error .nestedTooDeep
      | .error _ => .error (.configuration (.optionsUnreadable raw))

end ObjectIntake.Dataset
