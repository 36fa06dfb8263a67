import SqlScaffold.Files.Path
import SqlScaffold.Keyed
import SqlScaffold.Text.Utf8

/-!
A tree of files and directories as a value. Every operation walks a path part by part and fails
as an operating system does: at a missing directory, at a file in place of a directory, at a name
of more than 255 bytes, at a path of more than 4095 bytes or at a null character. Nobody is denied
access, there is always room, and the current directory has no name of its own: a path that leads out
of it does not come back by that name.
-/

namespace SqlScaffold.Files

open Text

inductive Content where
  | text (content : String)
  | bytes (content : List UInt8)
  deriving DecidableEq, Repr

def Content.chars : Content → Except Utf8Fault (List Char)
  | .text content => .ok content.toList
  | .bytes content => decodeUtf8 content

def Content.readText (content : Content) : Except Utf8Fault String :=
  content.chars.map fun chars => String.ofList (unifyNewlines chars)

inductive SystemProblem where
  | notFound
  | exists
  | notDirectory
  | isDirectory
  | nameTooLong
  deriving DecidableEq, Repr

def SystemProblem.number : SystemProblem → Nat
  | notFound => 2
  | «exists» => 17
  | notDirectory => 20
  | isDirectory => 21
  | nameTooLong => 36

def SystemProblem.text : SystemProblem → String
  | notFound => "No such file or directory"
  | «exists» => "File exists"
  | notDirectory => "Not a directory"
  | isDirectory => "Is a directory"
  | nameTooLong => "File name too long"

structure SystemError where
  problem : SystemProblem
  path : String
  deriving DecidableEq, Repr

def SystemError.message (error : SystemError) : String :=
  "[Errno " ++ toString error.problem.number ++ "] " ++ error.problem.text ++ ": " ++
    quoted error.path

inductive AccessError where
  | system (error : SystemError)
  | nullCharacter
  deriving DecidableEq, Repr

def AccessError.message : AccessError → String
  | system error => error.message
  | nullCharacter => "embedded null byte"

/-- The parts of a place in the tree, without detours. A leading `..` or `/` leads out of it. -/
abbrev Location := List String

inductive NodeKind where
  | file
  | directory
  deriving DecidableEq, Repr

structure FileTree where
  files : List (Location × Content)
  directories : List Location
  deriving DecidableEq, Repr

namespace FileTree

def isOutside (location : Location) : Bool := location == ["/"] || location.all (· == "..")

def kind? (tree : FileTree) (location : Location) : Option NodeKind :=
  if isOutside location || tree.directories.contains location then some .directory
  else if (tree.files.lookup location).isSome then some .file
  else none

def step (location : Location) (part : String) : Location :=
  if part = ".." then
    if location = ["/"] then location
    else if location.all (· == "..") then location ++ [part]
    else location.dropLast
  else location ++ [part]

def walk (tree : FileTree) (location : Location) : List String → Except SystemProblem Location
  | [] => .ok location
  | part :: rest =>
    match tree.kind? location with
    | none => .error .notFound
    | some .file => .error .notDirectory
    | some .directory =>
      if 255 < part.utf8ByteSize then .error .nameTooLong else tree.walk (step location part) rest

def locate (tree : FileTree) (path : Path) : Except AccessError Location :=
  if path.text.toList.contains '\x00' then .error .nullCharacter
  else if 4095 < path.text.utf8ByteSize then .error (.system ⟨.nameTooLong, path.text⟩)
  else
    let start := if path.anchor = .current then [] else ["/"]
    (tree.walk start path.parts).mapError fun problem => .system ⟨problem, path.text⟩

def refuse {α : Type} (problem : SystemProblem) (path : Path) : Except AccessError α :=
  .error (.system ⟨problem, path.text⟩)

/-- Whether something is at a path. A path that cannot be walked leads nowhere, but a name that is
too long is an error. -/
def holds (tree : FileTree) (path : Path) : Except AccessError Bool :=
  match tree.locate path with
  | .ok location => .ok (tree.kind? location).isSome
  | .error .nullCharacter => .ok false
  | .error (.system error) =>
    if error.problem = .nameTooLong then .error (.system error) else .ok false

def read (tree : FileTree) (path : Path) : Except AccessError Content := do
  let location ← tree.locate path
  match tree.kind? location with
  | some .directory => refuse .isDirectory path
  | _ =>
    match tree.files.lookup location with
    | some content => .ok content
    | none => refuse .notFound path

def write (tree : FileTree) (path : Path) (content : Content) : Except AccessError FileTree := do
  let location ← tree.locate path
  match tree.kind? location with
  | some .directory => refuse .isDirectory path
  | _ => .ok { tree with files := Keyed.put location content tree.files }

def makeDirectory (tree : FileTree) (path : Path) : Except AccessError FileTree := do
  let location ← tree.locate path
  match tree.kind? location with
  | some _ => refuse .exists path
  | none => .ok { tree with directories := tree.directories ++ [location] }

def isDirectory (tree : FileTree) (path : Path) : Bool :=
  match tree.locate path with
  | .ok location => tree.kind? location == some .directory
  | .error _ => false

def ensureDirectory (tree : FileTree) (path : Path) : Except AccessError FileTree :=
  match tree.makeDirectory path with
  | .ok made => .ok made
  | .error error =>
    if error ≠ .nullCharacter ∧ tree.isDirectory path then .ok tree else .error error

def isMissing : AccessError → Bool
  | .system error => error.problem == .notFound
  | .nullCharacter => false

/-- Makes a directory and all missing ones above it. The tree that comes with an error holds the
directories made before it. -/
def ensureDirectories (tree : FileTree) (path : Path) : FileTree × Option AccessError :=
  match tree.ensureDirectory path with
  | .ok made => (made, none)
  | .error error =>
    if isMissing error && !path.parts.isEmpty then
      let above := tree.ensureDirectories path.parent
      match above.2 with
      | some error => (above.1, some error)
      | none =>
        match above.1.ensureDirectory path with
        | .ok made => (made, none)
        | .error error => (above.1, some error)
    else (tree, some error)
termination_by path.parts.length
decreasing_by
  rename_i below
  have nonempty : path.parts ≠ [] := by simpa using (Bool.and_eq_true_iff.mp below).2
  have positive := List.length_pos_iff.mpr nonempty
  simp only [Path.parent, List.length_dropLast]
  omega

def makeDirectories (tree : FileTree) (path : Path) : FileTree × Option AccessError :=
  match tree.makeDirectory path with
  | .ok made => (made, none)
  | .error error =>
    if isMissing error && !path.parts.isEmpty then
      let above := tree.ensureDirectories path.parent
      match above.2 with
      | some error => (above.1, some error)
      | none =>
        match above.1.makeDirectory path with
        | .ok made => (made, none)
        | .error error => (above.1, some error)
    else (tree, some error)

def writeBelow (tree : FileTree) (path : Path) (content : Content) :
    FileTree × Option AccessError :=
  let above := tree.ensureDirectories path.parent
  match above.2 with
  | some error => (above.1, some error)
  | none =>
    match above.1.write path content with
    | .ok written => (written, none)
    | .error error => (above.1, some error)

def inside (tree : FileTree) : List (String × Content) :=
  (tree.files.filter fun entry => entry.1.head? != some ".." && entry.1.head? != some "/").map
    fun entry => ("/".intercalate entry.1, entry.2)

def changedSince (before after : FileTree) : List (String × Content) :=
  after.inside.filter fun entry => before.inside.lookup entry.1 != some entry.2

def ofFiles (files : List (String × Content)) : FileTree :=
  files.foldl (fun tree entry => (tree.writeBelow (Path.ofText entry.1) entry.2).1) ⟨[], []⟩

end FileTree

end SqlScaffold.Files
