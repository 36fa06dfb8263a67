import SqlScaffold.Console.Printed
import SqlScaffold.Emit.Emission

/-!
Destinations of units. Below a directory every part of a package is a directory of its own, and the
file is named after the unit. In memory a unit is kept by its qualified name, which is stored once; a
second unit of the name is refused. On the console each unit is printed under a line with its
qualified name. A program chooses one of them when it runs; all of them work on one state, of which
each changes its own part.
-/

namespace SqlScaffold.Emit

open Console Files

/-! Below a directory -/

structure Directory where
  root : Path
  extension : String := Generator.extension
  overwrite : Bool := true
  deriving DecidableEq, Repr

def Directory.pathFor (directory : Directory) (package name : String) : Path :=
  let above :=
    if package = "" then directory.root
    else directory.root.joinAll (Text.splitAtChar '.' package)
  above.join (Path.ofText (name ++ directory.extension))

def writeFailure (path : Path) (error : AccessError) : EmissionFailure :=
  match error with
  | .system error => .refused (.notWritten path error)
  | .nullCharacter => .access .nullCharacter

/-- Texts are made of characters, so that every body can be encoded. One with half of a pair of codes
would fail when the file has been emptied already, and with no error of the system. -/
def writeFile (tree : FileTree) (path : Path) (body : String) : Emission FileTree :=
  let made := tree.ensureDirectories path.parent
  match made.2 with
  | some error => failed made.1 (writeFailure path error)
  | none =>
    match made.1.write path (.text body) with
    | .error error => failed made.1 (writeFailure path error)
    | .ok written => succeeded written (some path) .info ("Wrote " ++ path.text)

def toDirectory (directory : Directory) : Emitter FileTree := fun tree unit =>
  let path := directory.pathFor unit.package unit.name
  match tree.holds path with
  | .error error => failed tree (.access error)
  | .ok found =>
    if found && !directory.overwrite then failed tree (.refused (.existing path))
    else writeFile tree path unit.body

/-! In memory -/

abbrev Artifacts := List (String × String)

def toMemory : Emitter Artifacts := fun artifacts unit =>
  let name := unit.qualifiedName
  if (artifacts.lookup name).isSome then failed artifacts (.refused (.repeated name))
  else
    succeeded (artifacts ++ [(name, unit.body)]) none .debug ("Stored " ++ name ++ " in memory")

/-! On the console -/

abbrev Printout := List String

def bar : String := Text.repeated 20 '═'

def heading (name : String) : String :=
  "\n[green]" ++ bar ++ " 📄 " ++ name ++ " " ++ bar ++ "[/green]\n"

def toTerminal : Emitter Printout := fun printout unit =>
  match printedLines (heading unit.qualifiedName) with
  | .error error => failed printout (.markup error)
  | .ok lines =>
    { state := printout ++ lines ++ codeLines unit.body
      outcome := .silent (.ok none)
      own := own_silent _ }

/-! One of them -/

/-- Where units go: into memory, into memory that refuses some of them for reasons of its own, below
a directory, or onto the console. -/
inductive Destination where
  | memory
  | guardedMemory (reason? : SourceUnit → Option String)
  | folder (directory : Directory)
  | terminal

structure Kept where
  tree : FileTree
  artifacts : Artifacts := []
  printed : Printout := []

def Emission.within {σ τ : Type} (emission : Emission σ) (keep : σ → τ) : Emission τ :=
  { emission with state := keep emission.state }

def keepInMemory (emitter : Emitter Artifacts) : Emitter Kept := fun kept unit =>
  (emitter kept.artifacts unit).within fun artifacts => { kept with artifacts }

def Destination.emitter : Destination → Emitter Kept
  | memory => keepInMemory toMemory
  | guardedMemory reason? => keepInMemory (refusing reason? toMemory)
  | folder directory => fun kept unit =>
    (toDirectory directory kept.tree unit).within fun tree => { kept with tree }
  | terminal => fun kept unit =>
    (toTerminal kept.printed unit).within fun printed => { kept with printed }

def Destination.setOverwrite (overwrite : Bool) : Destination → Destination
  | folder directory => .folder { directory with overwrite }
  | other => other

def Destination.pathFor? (package name : String) : Destination → Option Path
  | folder directory => some (directory.pathFor package name)
  | _ => none

def emitAll {σ : Type} (emitter : Emitter σ) (state : σ) :
    List SourceUnit → Logged (Except EmissionFailure σ)
  | [] => .silent (.ok state)
  | unit :: rest =>
    let emission := emitter state unit
    .after emission.outcome.logs <|
      match emission.outcome.value with
      | .error failure => .silent (.error failure)
      | .ok _ => emitAll emitter emission.state rest

end SqlScaffold.Emit
