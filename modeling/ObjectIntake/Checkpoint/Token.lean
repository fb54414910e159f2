import ObjectIntake.Failure

/-! Checkpoint tokens: the decimal text of the last version that was read. -/
namespace ObjectIntake.Checkpoint

/-- An empty token is a reset and counts as none. -/
def normalize (token : Json) : Json :=
  match token with
  | .str s => if s = "" then .null else token
  | _ => token

/-- The version of a token. Numbers are taken too, their fraction dropped. -/
def parse (token : Json) : Except Failure Int :=
  match token with
  | .str s =>
      match Numeral.read? s.toList with
      | some v => .ok v
      | none => .error (.resolution (.notAToken token))
  | .int n => .ok n
  | .bool b => .ok (if b then 1 else 0)
  | .float x =>
      match Numeral.Binary64.shape x, Numeral.Binary64.truncate? x with
      | _, some n => .ok n
      | .nan, none => .error (.resolution (.notAToken token))
      | _, none => .error .tooLarge
  | _ => .error (.wrongKind "")

/-- The token of a version. -/
def format (version : Int) : Except Failure String := Numeral.written version

end ObjectIntake.Checkpoint
