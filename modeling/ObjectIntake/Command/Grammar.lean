import ObjectIntake.Numeral.Integer
import ObjectIntake.Text.Likeness
import ObjectIntake.Text.Quoted
import ObjectIntake.Text.Search

/-! The grammar of a command line: options with and without operands, and arguments among them. -/
namespace ObjectIntake.Command
open Text

inductive Operand where
  | text
  | integer
  | file
  deriving DecidableEq, Repr

def Operand.placeholder : Operand → String
  | text => "TEXT"
  | integer => "INTEGER"
  | file => "FILE"

inductive OptionForm where
  /-- An option with an operand. After its short name the operand may follow at once. -/
  | valued (short : Option Char) (long : String) (operand : Operand) (about : String)
  /-- An option without an operand, and the one that undoes it. -/
  | switch (long : String) (opposite : Option String) (about : String)
  deriving DecidableEq, Repr

inductive Misuse where
  | unknownOption (name : String) (close : List String)
  | operandMissing (name : String)
  | operandUnwanted (name : String)
  | notAnInteger (name text : String)
  | directory (name path : String)
  | extraArguments (arguments : List String)
  | commandMissing
  | unknownCommand (name : String) (close : List String)
  /-- The text of a malformed property. -/
  | malformed (message : String)
  deriving DecidableEq, Repr

namespace Misuse

/-- What names close to an unknown one are offered. -/
def advice : List String → String
  | [] => ""
  | [name] => " Did you mean " ++ quoted name ++ "?"
  | names => " (Did you mean one of: " ++ join ", " (names.map quoted) ++ "?)"

def message : Misuse → String
  | unknownOption name close => "No such option " ++ quoted name ++ "." ++ advice close
  | operandMissing name => "Option " ++ quoted name ++ " requires an argument."
  | operandUnwanted name => "Option " ++ quoted name ++ " does not take a value."
  | notAnInteger name text =>
      "Invalid value for " ++ quoted name ++ ": " ++ quoted text ++ " is not a valid integer."
  | directory name path => "Invalid value for " ++ quoted name ++ ": File " ++ quoted path ++ " is a directory."
  | extraArguments [argument] => "Got unexpected extra argument (" ++ argument ++ ")"
  | extraArguments arguments => "Got unexpected extra arguments (" ++ join " " arguments ++ ")"
  | commandMissing => "Missing command."
  | unknownCommand name close => "No such command " ++ quoted name ++ "." ++ advice close
  | malformed message => message

/-- The usage is shown with all faults but those of a known option that stands without or with an operand. -/
def showsUsage : Misuse → Bool
  | operandMissing _ => false
  | operandUnwanted _ => false
  | _ => true

end Misuse

namespace OptionForm

def name : OptionForm → String
  | valued _ long _ _ => long
  | switch long _ _ => long

def longNames : OptionForm → List String
  | valued _ long _ _ => [long]
  | switch long opposite _ => long :: opposite.toList

/-- The names with the placeholder of the operand, as help shows them. -/
def heading : OptionForm → String
  | valued none long operand _ => long ++ " " ++ operand.placeholder
  | valued (some c) long operand _ => "-" ++ c.toString ++ ", " ++ long ++ " " ++ operand.placeholder
  | switch long none _ => long
  | switch long (some opposite) _ => long ++ " / " ++ opposite

def about : OptionForm → String
  | valued _ _ _ about => about
  | switch _ _ about => about

end OptionForm

/-- One use of an option: the operand, or whether a switch is put on. -/
inductive Use where
  | operand (form : OptionForm) (value : String)
  | switched (form : OptionForm) (on : Bool)
  deriving DecidableEq, Repr

def Use.form : Use → OptionForm
  | operand form _ => form
  | switched form _ => form

/-- What one argument says. -/
inductive Reading where
  | use (u : Use)
  /-- The operand of the option is the next argument. -/
  | awaits (name : String) (form : OptionForm)

abbrev Grammar := List OptionForm

namespace Grammar

def longNames (g : Grammar) : List String := g.flatMap OptionForm.longNames

def findLong (g : Grammar) (name : String) : Option OptionForm :=
  g.find? fun form => form.longNames.contains name

def hasShort (c : Char) : OptionForm → Bool
  | .valued (some short) _ _ _ => short = c
  | _ => false

/-- An argument that starts with a hyphen and has more than that. -/
def isOption (argument : String) : Bool :=
  match argument.toList with
  | '-' :: _ :: _ => true
  | _ => false

def isLong (argument : String) : Bool := startsWith argument "--"

/-- Reads an argument as the long name of an option, with its operand after an equals sign. -/
def readLong (form : OptionForm) (name : String) (given : Option String) : Except Misuse Reading :=
  match form, given with
  | .valued _ _ _ _, some value => .ok (.use (.operand form value))
  | .valued _ _ _ _, none => .ok (.awaits name form)
  | .switch _ _ _, some _ => .error (.operandUnwanted name)
  | .switch long _ _, none => .ok (.use (.switched form (name = long)))

def readShort (g : Grammar) (argument : String) : Except Misuse Reading :=
  match argument.toList with
  | _ :: c :: rest =>
      let name := String.ofList ['-', c]
      match g.find? (hasShort c) with
      | none => .error (.unknownOption name [])
      | some form =>
          if rest.isEmpty then .ok (.awaits name form)
          else .ok (.use (.operand form (String.ofList rest)))
  | _ => .error (.unknownOption argument [])

def readOption (g : Grammar) (argument : String) : Except Misuse Reading :=
  let name := String.ofList (argument.toList.takeWhile (· ≠ '='))
  let given :=
    match argument.toList.dropWhile (· ≠ '=') with
    | [] => none
    | _ :: value => some (String.ofList value)
  match g.findLong name with
  | some form => readLong form name given
  | none =>
      if isLong argument then .error (.unknownOption name (closeWords g.longNames name))
      else g.readShort argument

/-- A command line that has been read: the options used in it, and its arguments. -/
structure Line where
  uses : List Use
  arguments : List String
  deriving DecidableEq, Repr

def Line.use (u : Use) (line : Line) : Line := { line with uses := u :: line.uses }

/--
Reads a command line. Two hyphens end the options. Unless arguments may stand `among` the options the first one
ends them too.
-/
def read (g : Grammar) (among : Bool) : List String → Except Misuse Line
  | [] => .ok ⟨[], []⟩
  | argument :: rest =>
      if argument = "--" then .ok ⟨[], rest⟩
      else if isOption argument then
        match g.readOption argument with
        | .error misuse => .error misuse
        | .ok (.use u) => (g.read among rest).map (Line.use u)
        | .ok (.awaits name form) =>
            match rest with
            | [] => .error (.operandMissing name)
            | value :: rest => (g.read among rest).map (Line.use (.operand form value))
      else if among then
        (g.read among rest).map fun line => { line with arguments := argument :: line.arguments }
      else .ok ⟨[], argument :: rest⟩

namespace Line

/-- All operands of an option, in order. -/
def operands (line : Line) (name : String) : List String :=
  line.uses.filterMap fun
    | .operand form value => if form.name = name then some value else none
    | .switched _ _ => none

/-- The last operand of an option. -/
def operand? (line : Line) (name : String) : Option String := (line.operands name).getLast?

/-- Whether a switch is on, by the last use of it. -/
def isOn (line : Line) (name : String) (fallback : Bool) : Bool :=
  (line.uses.filterMap fun
    | .switched form on => if form.name = name then some on else none
    | .operand _ _ => none).getLast?.getD fallback

/-- The forms used, in the order of their first uses. -/
def forms (line : Line) : List OptionForm := (line.uses.map Use.form).eraseDups

end Line
end Grammar
end ObjectIntake.Command
