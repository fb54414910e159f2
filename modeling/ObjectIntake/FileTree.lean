import ObjectIntake.Failure
import ObjectIntake.Text.Utf8

/-!
A tree of directories and files. Places in it are lists of names from the working directory, or from the root
if the first name is a slash.
-/
namespace ObjectIntake
open Text

/-- A path as it is written: the names in it, without empty ones and without single dots. -/
structure FilePath where
  /-- The slashes at the start. -/
  anchor : String
  names : List String
  deriving DecidableEq

namespace FilePath

def anchorOf (s : List Char) : String :=
  match (s.takeWhile (· = '/')).length with
  | 0 => ""
  | 2 => "//"
  | _ => "/"

def ofText (s : String) : FilePath :=
  ⟨anchorOf s.toList, (split '/' s).filter fun name => name ≠ "" && name ≠ "."⟩

def text (p : FilePath) : String :=
  if p.anchor = "" && p.names.isEmpty then "." else p.anchor ++ join "/" p.names

/-- The names to follow, from the root if there are slashes at the start. -/
def steps (p : FilePath) : List String := if p.anchor = "" then p.names else "/" :: p.names

def name (p : FilePath) : String := p.names.getLast?.getD ""

/-- The names to follow to the directory that holds the last one. -/
def parentSteps (p : FilePath) : List String :=
  if p.anchor = "" then p.names.dropLast else "/" :: p.names.dropLast

end FilePath

abbrev Place := List String

structure FileTree where
  directories : List Place := []
  files : List (Place × List UInt8) := []

namespace FileTree

inductive Found where
  | directory (place : Place)
  | file (place : Place) (content : List UInt8)
  /-- Nothing has this name in an existing directory. -/
  | vacant (directory : Place) (name : String)
  deriving DecidableEq

def root : Place := ["/"]

def isDirectory (t : FileTree) (p : Place) : Bool := p = [] || p = root || t.directories.contains p

def content? (t : FileTree) (p : Place) : Option (List UInt8) := t.files.lookup p

/-- The most bytes that a name may have. -/
def nameLimit : Nat := 255

def fits (name : String) : Bool := (Utf8.encode name.toList).length ≤ nameLimit

/-- The directory above; the root is its own. -/
def above (p : Place) : Place := if p = root then root else p.dropLast

/-- Follows names from an existing directory. -/
def walk (t : FileTree) (start : Place) : List String → Except FileFault Found
  | [] => .ok (.directory start)
  | name :: rest =>
      if name = "/" then t.walk root rest
      else if name = ".." then t.walk (above start) rest
      else if !fits name then .error .nameTooLong
      else if t.isDirectory (start ++ [name]) then t.walk (start ++ [name]) rest
      else match t.content? (start ++ [name]), rest with
        | some content, [] => .ok (.file (start ++ [name]) content)
        | some _, _ => .error .notDirectory
        | none, [] => .ok (.vacant start name)
        | none, _ => .error .notFound

def hasNull (name : String) : Bool := name.toList.contains '\x00'

/-- The most bytes that a whole path may have. -/
def pathLimit : Nat := 4095

def pathFits (steps : List String) : Bool := (Utf8.encode (join "/" steps).toList).length ≤ pathLimit

def find (t : FileTree) (steps : List String) : Except FileFault Found :=
  if steps.any hasNull then .error .nullInName
  else if !pathFits steps then .error .nameTooLong
  else t.walk [] steps

def isDirectoryAt (t : FileTree) (steps : List String) : Bool :=
  match t.find steps with
  | .ok (.directory _) => true
  | _ => false

/-- Makes one directory. -/
def makeDirectory (t : FileTree) (steps : List String) : Except FileFault FileTree :=
  match t.find steps with
  | .error e => .error e
  | .ok (.vacant place name) => .ok { t with directories := (place ++ [name]) :: t.directories }
  | .ok _ => .error .exists

/-- Makes a directory unless there is one, given the names in reverse, after the missing ones above it. -/
def ensureAbove (t : FileTree) : (reversed : List String) → FileTree × Except FileFault Unit
  | [] => (t, .ok ())
  | name :: rest =>
      let steps := (name :: rest).reverse
      let settle (t : FileTree) (e : FileFault) : FileTree × Except FileFault Unit :=
        (t, if t.isDirectoryAt steps then .ok () else .error e)
      match t.makeDirectory steps with
      | .ok t => (t, .ok ())
      | .error .notFound =>
          match t.ensureAbove rest with
          | (t, .error e) => (t, .error e)
          | (t, .ok _) =>
              match t.makeDirectory steps with
              | .ok t => (t, .ok ())
              | .error e => settle t e
      | .error e => settle t e

/-- Makes a directory and all that are missing above it. -/
def ensureDirectory (t : FileTree) (steps : List String) : FileTree × Except FileFault Unit :=
  t.ensureAbove steps.reverse

/-- Makes a directory that is not there yet, after all that are missing above it. -/
def createDirectory (t : FileTree) (steps : List String) : FileTree × Except FileFault Unit :=
  let make (t : FileTree) : FileTree × Except FileFault Unit :=
    match t.makeDirectory steps with
    | .ok t => (t, .ok ())
    | .error e => (t, .error e)
  match t.find steps.dropLast with
  | .ok (.directory _) => make t
  | .ok (.file _ _) => make t
  | _ =>
      match t.ensureDirectory steps.dropLast with
      | (t, .ok _) => make t
      | (t, .error e) => (t, .error e)

/-- Makes the directory at a path as it is written. A dot at its end names the directory before it. -/
def createNamed (t : FileTree) (text : String) : FileTree × Except FileFault Unit :=
  let steps := (FilePath.ofText text).steps
  if text = "" then (t, .error .notFound)
  else if steps.isEmpty then (t, .error .exists)
  else if (split '/' text).getLast? = some "." then
    match t.find steps with
    | .ok (.directory _) => (t, .error .exists)
    | .ok (.file _ _) => (t, .error .notDirectory)
    | _ => t.ensureDirectory steps
  else t.createDirectory steps

/-- Sets the content of the file at a place, keeping the place of one that is there in the list. -/
def setContent (content : List UInt8) (place : Place) :
    List (Place × List UInt8) → List (Place × List UInt8)
  | [] => [(place, content)]
  | (p, old) :: rest => if p = place then (p, content) :: rest else (p, old) :: setContent content place rest

def write (t : FileTree) (place : Place) (content : List UInt8) : FileTree :=
  { t with files := setContent content place t.files }

def remove (t : FileTree) (place : Place) : FileTree :=
  { t with files := t.files.filter fun f => f.1 ≠ place }

/-- The last step is the name of something, not a way to a directory. -/
def endsInName (steps : List String) : Bool :=
  match steps.getLast? with
  | none => false
  | some name => name ≠ "/" && name ≠ ".."

/-- The place at which a file can be written. -/
def target (t : FileTree) (steps : List String) : Except FileFault Place :=
  match t.find steps with
  | .error e => .error e
  | .ok (.directory _) => .error (if endsInName steps then .isDirectory else .inUse)
  | .ok (.file place _) => .ok place
  | .ok (.vacant place name) => .ok (place ++ [name])

/-- Whether a path as it is written ends in the name of something, rather than in a slash or in dots. -/
def namesFile (text : String) : Bool :=
  let last := (split '/' text).getLast?.getD ""
  last ≠ "" && last ≠ "." && last ≠ ".."

/-- What stands in a path before its last slash. -/
def parentText (text : String) : String :=
  String.ofList (trimRight (· = '/') (trimRight (· ≠ '/') text.toList))

/-- Makes a directory and all that are missing above it. What a dot follows has to be a directory already. -/
def ensureNamed (t : FileTree) (text : String) : FileTree × Except FileFault Unit :=
  let steps := (FilePath.ofText text).steps
  match (split '/' text).getLast?, t.find steps with
  | some ".", .ok (.file _ _) => (t, .error .notDirectory)
  | _, _ => t.ensureDirectory steps

/-- Writes a file at a path as it is written, after the directories that are missing above it. -/
def plant (t : FileTree) (text : String) (content : List UInt8) : FileTree × Except FileFault Unit :=
  if text = "" then (t, .error .notFound)
  else match t.ensureNamed (parentText text) with
    | (t, .error e) => (t, .error e)
    | (t, .ok _) =>
        if !namesFile text then (t, .error .isDirectory)
        else match t.target (FilePath.ofText text).steps with
          | .ok place => (t.write place content, .ok ())
          | .error e => (t, .error e)

/-- Puts the file at one place in the place of another. -/
def replace (t : FileTree) (source : Place) (steps : List String) : Except FileFault FileTree :=
  match t.content? source with
  | none => .error .notFound
  | some content => do
      let place ← t.target steps
      return (t.remove source).write place content

theorem content?_write (t : FileTree) (place : Place) (content : List UInt8) (p : Place) :
    (t.write place content).content? p = if p = place then some content else t.content? p := by
  obtain ⟨directories, files⟩ := t
  simp only [write, content?]
  induction files with
  | nil =>
      by_cases h : p = place
      · simp [setContent, h]
      · simp [setContent, h, List.lookup_cons, beq_eq_false_iff_ne.2 h]
  | cons f rest ih =>
      obtain ⟨q, old⟩ := f
      by_cases hq : q = place
      · subst hq
        by_cases h : p = q
        · simp [setContent, h]
        · simp [setContent, h, List.lookup_cons, beq_eq_false_iff_ne.2 h]
      · by_cases h : p = q
        · subst h
          simp [setContent, hq]
        · simp [setContent, List.lookup_cons, hq, beq_eq_false_iff_ne.2 h, ih]

end FileTree
end ObjectIntake
