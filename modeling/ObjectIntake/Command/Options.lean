import ObjectIntake.Settings.Deployment
import ObjectIntake.Text.Blank

/-! Source properties given on the command line, one `key=value` an option. -/
namespace ObjectIntake.Command
open Settings

/-- The properties of the options; a key given twice has the last value. -/
def properties (done : Keyed String) : List String → Except Failure (Keyed String)
  | [] => .ok done
  | item :: rest =>
      let key := Text.strip (String.ofList (item.toList.takeWhile (· ≠ '=')))
      match item.toList.dropWhile (· ≠ '=') with
      | [] => .error (.malformedOption item)
      | _ :: value =>
          if key = "" then .error (.malformedOption item)
          else properties (done.put key (String.ofList value)) rest

/-- The settings of the source: from the options, or without any from the application's settings. -/
def sourceSettings (items : List String) (around : Surroundings) : Except Failure SourceSettings := do
  match ← properties [] items with
  | [] => return (← Application.load around).source
  | given =>
      match SourceSettings.ofProperties (given.map fun (k, v) => (k, .str v)) around with
      | .ok s => return s
      | .error e => throw (.configuration e)

/-- The settings that the options give where the program runs. The options are read before the file is. -/
def settingsAt (items : List String) (d : Deployment) : Except Failure SourceSettings := do
  let given ← properties [] items
  SourceSettings.checkKeys (given.map fun (k, v) => (k, .str v))
  sourceSettings items (← d.surroundings)

end ObjectIntake.Command
