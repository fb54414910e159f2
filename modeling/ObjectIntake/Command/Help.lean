import ObjectIntake.Text.Search

/-! Help pages: a usage line, paragraphs, and lists of terms with what they mean. -/
namespace ObjectIntake.Command.Help
open Text

/-- The columns of a page. -/
def pageWidth : Nat := 78

/-- Fills lines with words, a blank between two. A word goes to the next line only where it does not fit. -/
def fillFrom (width : Nat) (line : String) : List String → List String
  | [] => [line]
  | word :: rest =>
      if line.length + 1 + word.length ≤ width then fillFrom width (line ++ " " ++ word) rest
      else line :: fillFrom width word rest

/-- The lines of a text. One that fits on a line stays as it is. -/
def fill (width : Nat) (text : String) : List String :=
  if text.length ≤ width then [text]
  else match split ' ' text with
    | [] => []
    | word :: rest => fillFrom width word rest

def indented (n : Nat) (line : String) : String := String.ofList (List.replicate n ' ') ++ line

def paragraph (text : String) : List String := (fill (pageWidth - 2) text).map (indented 2)

def padded (width : Nat) (s : String) : String := s ++ String.ofList (List.replicate (width - s.length) ' ')

/-- A term with what it means. -/
structure Entry where
  term : String
  meaning : String

/-- Terms in a first column and meanings in a second, two blanks apart. -/
def entryLines (entries : List Entry) : List String :=
  let first := (entries.map (·.term.length)).foldl max 0
  entries.flatMap fun e =>
    match fill (pageWidth - first - 4) e.meaning with
    | [] => [indented 2 e.term]
    | line :: rest =>
        indented 2 (padded (first + 2) e.term ++ line) :: rest.map (indented (first + 4))

/-- The words that fit before three dots. -/
def shortenFrom (limit : Nat) (line : String) : List String → String
  | [] => line ++ "..."
  | word :: rest =>
      if line.length + 1 + word.length + 3 ≤ limit then shortenFrom limit (line ++ " " ++ word) rest
      else line ++ "..."

/-- A text on one line of at most `limit` columns. -/
def shorten (limit : Nat) (text : String) : String :=
  if text.length ≤ limit then text
  else match split ' ' text with
    | [] => ""
    | word :: rest => shortenFrom limit word rest

/-- The list of commands, each on one line. -/
def commandEntries (commands : List Entry) : List Entry :=
  let first := (commands.map (·.term.length)).foldl max 0
  commands.map fun e => { e with meaning := shorten (pageWidth - 6 - first) e.meaning }

/-- A list under its title, unless it is empty. -/
def titled (title : String) (entries : List Entry) : List String :=
  if entries.isEmpty then [] else ["", title ++ ":"] ++ entryLines entries

def page (usage : String) (about : List String) (options commands : List Entry) : List String :=
  [usage] ++ about.flatMap (fun text => "" :: paragraph text) ++ titled "Options" options ++
    titled "Commands" (commandEntries commands)

end ObjectIntake.Command.Help
