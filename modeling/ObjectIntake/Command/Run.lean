import ObjectIntake.Command.Action
import ObjectIntake.Journal.Threshold

/-! A run of the program: it reads the command line, chooses what is logged, and does what the command says. -/
namespace ObjectIntake.Command

variable {W Rows Data : Type}

def versionLine : String := programName ++ ", version 0.1.0"

/-- The lines to print in place of everything else, if help or the version is asked for. -/
def askedLines (scope : Scope) (line : Grammar.Line) : Option (List String) :=
  line.forms.findSome? fun form =>
    if form = helpForm then some scope.help
    else if form = versionForm then some [versionLine]
    else none

/-- Reads a command line and goes on with it, unless it is misused or asks for help. -/
def withLine (scope : Scope) (among : Bool) (arguments : List String)
    (next : Grammar.Line → Work (Desk W) Exit) : Work (Desk W) Exit :=
  match scope.grammar.read among arguments with
  | .error misuse => return .misused scope misuse
  | .ok line =>
      match askedLines scope line with
      | some lines => do
          Desk.printLines lines
          return .done
      | none => next line

/-- What is wrong with the operand of an option, if anything. The last one counts. -/
def operandMisuse? (t : FileTree) (line : Grammar.Line) : OptionForm → Except Failure (Option Misuse)
  | .valued _ name .integer _ =>
      match line.operand? name with
      | none => .ok none
      | some text =>
          match Numeral.read? text.toList with
          | some _ => .ok none
          | none => .ok (some (.notAnInteger name text))
  | .valued _ name .file _ =>
      match line.operand? name with
      | none => .ok none
      | some path =>
          match t.find (FilePath.ofText path).steps with
          | .ok (.directory _) => .ok (if path = "" then none else some (.directory name path))
          | .error .nullInName => .error (.file .nullInName)
          | _ => .ok none
  | _ => .ok none

/-- The first misuse in the order in which the options are first used, and then any arguments. -/
def misuse? (t : FileTree) (line : Grammar.Line) : Except Failure (Option Misuse) := do
  match ← line.forms.findSomeM? (operandMisuse? t line) with
  | some misuse => return some misuse
  | none => return if line.arguments.isEmpty then none else some (.extraArguments line.arguments)

def integerOf (line : Grammar.Line) (name : String) : Int :=
  ((line.operand? name).bind fun text => Numeral.read? text.toList).getD 0

def FetchOptions.ofLine (line : Grammar.Line) : FetchOptions where
  conf := line.operands "--conf"
  checkpoint := line.operand? "--checkpoint"
  checkpointFile := line.operand? "--checkpoint-file"
  limit := integerOf line "--source-limit"
  save := line.isOn "--save" true
  shownRows := integerOf line "--show"
  serveMetrics := line.isOn "--serve-metrics" false

def ResolveOptions.ofLine (line : Grammar.Line) : ResolveOptions where
  conf := line.operands "--conf"
  checkpoint := line.operand? "--checkpoint"
  checkpointFile := line.operand? "--checkpoint-file"

def runVerb (context : Context W Rows Data) (v : Verb) (line : Grammar.Line) : Work (Desk W) Exit := do
  match ← Work.ofExcept (misuse? (← Work.world).tree line) with
  | some misuse => return .misused (.verb v) misuse
  | none =>
      match v with
      | .config => config context (line.operands "--conf")
      | .fetch => fetch context (.ofLine line)
      | .resolve => resolve context (.ofLine line)

/-- A command is looked for after the options of the program. What looks like an option there is read as one. -/
def runNamed (context : Context W Rows Data) (level : Option String) (name : String)
    (rest : List String) : Work (Desk W) Exit := do
  match Verb.ofName? name with
  | none =>
      let close := Text.closeWords (Verb.all.map Verb.name) name
      let unknown : Exit := .misused .main (.unknownCommand name close)
      if Grammar.isOption name then withLine .main false (name :: rest) fun _ => return unknown
      else return unknown
  | some v =>
      let level ←
        match Journal.asked? level with
        | some level => pure level
        | none => do pure (← Desk.settings context.place).logLevel
      let threshold ← Work.ofExcept (Journal.threshold level)
      Work.change fun d => { d with threshold := some threshold }
      withLine (.verb v) true rest (runVerb context v)

def run (context : Context W Rows Data) (arguments : List String) : Work (Desk W) Exit :=
  if arguments.isEmpty then return ⟨2, Scope.main.help⟩
  else withLine .main false arguments fun line =>
    match line.arguments with
    | [] => return .misused .main .commandMissing
    | name :: rest => runNamed context (line.operand? "--log-level") name rest

end ObjectIntake.Command
