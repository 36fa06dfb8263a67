import SqlScaffold.Text.Lines

/-!
Paths of files and directories. Empty and `.` segments are no parts of a path; `..` is one, as
only the file tree knows what it leads to. Joining an absolute path drops what stands before it.
-/

namespace SqlScaffold.Files

open Text

inductive Anchor where
  | current
  | root
  | doubleRoot
  deriving DecidableEq, Repr

structure Path where
  anchor : Anchor
  parts : List String
  deriving DecidableEq, Repr

namespace Path

def anchorOf (chars : List Char) : Anchor :=
  match (chars.takeWhile (· = '/')).length with
  | 0 => .current
  | 2 => .doubleRoot
  | _ => .root

def isPart (segment : String) : Bool := segment != "" && segment != "."

def ofText (text : String) : Path :=
  ⟨anchorOf text.toList, (splitAtChar '/' text).filter isPart⟩

def anchorText : Anchor → String
  | .current => ""
  | .root => "/"
  | .doubleRoot => "//"

def text (path : Path) : String :=
  if path.anchor = .current ∧ path.parts = [] then "."
  else anchorText path.anchor ++ joinWith "/" path.parts

def join (base next : Path) : Path :=
  if next.anchor = .current then ⟨base.anchor, base.parts ++ next.parts⟩ else next

def joinAll (base : Path) (segments : List String) : Path :=
  segments.foldl (fun path segment => path.join (ofText segment)) base

def parent (path : Path) : Path := ⟨path.anchor, path.parts.dropLast⟩

def name (path : Path) : String := path.parts.getLast?.getD ""

def suffix (path : Path) : String :=
  match splitLast '.' path.name with
  | some (before, after) => if before = "" || after = "" then "" else "." ++ after
  | none => ""

end Path

end SqlScaffold.Files
