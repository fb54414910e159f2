import ObjectIntake.Keyed
import ObjectIntake.Text.Blank
import ObjectIntake.Text.Newline

/-!
Files of variable assignments, one a line: comments, an optional export word, quoted and plain values, and
references to other variables.
-/
namespace ObjectIntake.Settings.DotEnv
open Text

/-- Blanks inside a line. -/
def isGap (c : Char) : Bool := isBlank c && c ≠ '\n' && c ≠ '\r'

def isLineEnd (c : Char) : Bool := c = '\n' || c = '\r'

def skipGap (s : List Char) : List Char := s.dropWhile isGap

def skipLine (s : List Char) : List Char := (s.dropWhile fun c => !isLineEnd c).drop 1

/-- The text up to the closing quote and what follows it. A backslash keeps the character after it from closing. -/
def quotedBody (quote : Char) : List Char → Option (List Char × List Char)
  | [] => none
  | [c] => if c = quote then some ([], []) else none
  | c :: d :: rest =>
      if c = '\\' then (quotedBody quote rest).map fun (body, after) => (c :: d :: body, after)
      else if c = quote then some ([], d :: rest)
      else (quotedBody quote (d :: rest)).map fun (body, after) => (c :: body, after)

def escapeIn (quote c : Char) : Option Char :=
  if quote = '\'' then
    if c = '\\' || c = '\'' then some c else none
  else match c with
    | '\\' => some c
    | '\'' => some c
    | '"' => some c
    | 'a' => some '\x07'
    | 'b' => some '\x08'
    | 'f' => some '\x0c'
    | 'n' => some '\n'
    | 'r' => some '\r'
    | 't' => some '\t'
    | 'v' => some '\x0b'
    | _ => none

def unescape (quote : Char) : List Char → List Char
  | [] => []
  | [c] => [c]
  | c :: d :: rest =>
      if c = '\\' then
        match escapeIn quote d with
        | some e => e :: unescape quote rest
        | none => c :: unescape quote (d :: rest)
      else c :: unescape quote (d :: rest)

/-- A plain value ends before a blank that a number sign follows. -/
def beforeComment : (gap : List Char) → List Char → List Char
  | gap, [] => gap.reverse
  | gap, c :: rest =>
      if isBlank c then beforeComment (c :: gap) rest
      else if c = '#' && !gap.isEmpty then []
      else gap.reverse ++ c :: beforeComment [] rest

structure Assignment where
  name : String
  /-- None for a name alone. -/
  value : Option String

/-- What stands in the file, up to a line's end. -/
inductive Statement where
  | assignment (a : Assignment)
  | comment
  /-- Neither of these. The line is that on which it starts, or the blank lines before it. -/
  | unreadable (line : Nat)

def readKey? (s : List Char) : Option (Option (List Char) × List Char) :=
  match s with
  | '#' :: _ => some (none, s)
  | '\'' :: rest =>
      let key := rest.takeWhile (· ≠ '\'')
      match rest.dropWhile (· ≠ '\'') with
      | _ :: after => if key.isEmpty then none else some (some key, after)
      | [] => none
  | _ =>
      let plain (c : Char) : Bool := c ≠ '=' && c ≠ '#' && !isBlank c
      let key := s.takeWhile plain
      if key.isEmpty then none else some (some key, s.dropWhile plain)

/-- The value after an equals sign and what follows it. The gap before a plain value may open a comment. -/
def readValue? (s : List Char) : Option (List Char × List Char) :=
  match skipGap s with
  | [] => some ([], [])
  | c :: rest =>
      if c = '\'' || c = '"' then
        (quotedBody c rest).map fun (body, after) => (unescape c body, after)
      else
        let line := beforeComment [] (s.takeWhile fun c => !isLineEnd c)
        some (skipGap (trimRight isBlank line), s.dropWhile fun c => !isLineEnd c)

/-- The text after the word `export` and a blank, if it starts so. -/
def skipExport (s : List Char) : List Char :=
  if "export".toList.isPrefixOf s then
    let rest := s.drop 6
    match rest with
    | c :: _ => if isGap c then skipGap rest else s
    | [] => s
  else s

/-- What is left when the line ends here, a comment apart. -/
def endOfLine? (s : List Char) : Option (List Char) :=
  let s :=
    match skipGap s with
    | '#' :: rest => rest.dropWhile fun c => !isLineEnd c
    | _ => s
  match skipGap s with
  | [] => some []
  | c :: rest => if isLineEnd c then some rest else none

def statementOf (key : Option (List Char)) (value : Option (List Char)) : Statement :=
  match key with
  | some key => .assignment ⟨String.ofList key, value.map String.ofList⟩
  | none => .comment

/-- One statement and the text after its line. An unreadable one is skipped from where it fails. -/
def readStatement (line : Nat) (s : List Char) : Statement × List Char :=
  let s := skipExport s
  match readKey? s with
  | none => (.unreadable line, skipLine s)
  | some (key, rest) =>
      let rest := skipGap rest
      match rest with
      | '=' :: after =>
          match readValue? after with
          | none => (.unreadable line, skipLine (skipGap after))
          | some (value, rest) =>
              match endOfLine? rest with
              | none => (.unreadable line, skipLine rest)
              | some rest => (statementOf key (some value), rest)
      | _ =>
          match endOfLine? rest with
          | none => (.unreadable line, skipLine rest)
          | some rest => (statementOf key none, rest)

def lineEnds (s : List Char) : Nat := s.count '\n'

/-- The statements from a line on. Each takes at least one character. -/
def readStatements : (fuel : Nat) → (line : Nat) → List Char → List Statement
  | 0, _, _ => []
  | fuel + 1, line, s =>
      match s.dropWhile isBlank with
      | [] => []
      | start =>
          let (statement, rest) := readStatement line start
          statement :: readStatements fuel (line + (lineEnds s - lineEnds rest)) rest

/-- The text without the mark of its byte order. -/
def withoutMark : List Char → List Char
  | '\ufeff' :: rest => rest
  | s => s

def statements (text : String) : List Statement :=
  let s := unifyNewlines (withoutMark text.toList)
  readStatements (s.length + 1) 1 s

def assignments (text : String) : List Assignment :=
  (statements text).filterMap fun
    | .assignment a => some a
    | _ => none

/-- The lines on which the statements start that cannot be read. -/
def unreadableLines (text : String) : List Nat :=
  (statements text).filterMap fun
    | .unreadable line => some line
    | _ => none

/-- A reference after its opening brace: the name, the default and what follows. -/
def reference? (s : List Char) : Option (List Char × List Char × List Char) :=
  let plain (c : Char) : Bool := c ≠ '\x7d' && c ≠ ':'
  let name := s.takeWhile plain
  match s.dropWhile plain with
  | '\x7d' :: rest => some (name, [], rest)
  | ':' :: '-' :: rest =>
      let fallback := rest.takeWhile (· ≠ '\x7d')
      match rest.dropWhile (· ≠ '\x7d') with
      | _ :: after => some (name, fallback, after)
      | [] => none
  | _ => none

/-- The value with each reference replaced by what `known` gives for it, or by its default. -/
def expand (known : Keyed (Option String)) : (fuel : Nat) → List Char → List Char
  | 0, s => s
  | _ + 1, [] => []
  | fuel + 1, c :: rest =>
      match c, rest with
      | '$', '\x7b' :: body =>
          match reference? body with
          | some (name, fallback, after) =>
              let value :=
                match known.get? (String.ofList name) with
                | some (some value) => value.toList
                | some none => []
                | none => fallback
              value ++ expand known fuel after
          | none => c :: expand known fuel rest
      | _, _ => c :: expand known fuel rest

def resolve (known : Keyed (Option String)) (done : Keyed (Option String)) :
    List (String × Option String) → Keyed (Option String)
  | [] => done
  | (name, value) :: rest =>
      let value := value.map fun v =>
        String.ofList (expand (known.merge done) (v.length + 1) v.toList)
      resolve known (done.put name value) rest

/-- The variables that the text assigns; references see the environment and the assignments before them. -/
def assigned (environment : List (String × String)) (text : String) : Keyed (Option String) :=
  resolve (environment.map fun (k, v) => (k, some v)) []
    ((assignments text).map fun a => (a.name, a.value))

end ObjectIntake.Settings.DotEnv
