import SqlScaffold.Json.Writer
import SqlScaffold.Settings.Custom
import SqlScaffold.Text.Case

/-!
Settings in files. A settings file is a JSON object; it is one layer between the defaults and the
overrides given by the caller. Saved settings have the custom keys beside the known ones, and a
custom key that is the name of a setting replaces its value.
-/

namespace SqlScaffold

open Files Text

/-- Why settings cannot be read or saved: by the rules for settings, or because a path or the bytes
of a file cannot be used at all. -/
inductive SettingsFailure where
  | config (error : ConfigError)
  | access (error : AccessError)
  | undecodable (fault : Utf8Fault)
  | exceeding (excess : Json.Excess)
  | pairs (error : PairError)

def SettingsFailure.message : SettingsFailure → String
  | config error => error.message
  | access error => error.message
  | undecodable fault => fault.message
  | exceeding excess => excess.message
  | pairs error => error.message

namespace SettingsFile

def suffix : String := ".json"

def refused (wrap : SystemError → ConfigError) (error : AccessError) : SettingsFailure :=
  match error with
  | .system error => .config (wrap error)
  | .nullCharacter => .access .nullCharacter

def read (tree : FileTree) (path : Path) : Except SettingsFailure Entries := do
  let found ← (tree.holds path).mapError SettingsFailure.access
  if !found then .error (.config (.fileNotFound path))
  else if lower path.suffix ≠ suffix then .error (.config (.fileNotJson path))
  else
    let content ← (tree.read path).mapError (refused (.unreadable path))
    let document ← content.readText.mapError SettingsFailure.undecodable
    match Json.read document with
    | .error (.malformed error) => .error (.config (.invalidJson path error))
    | .error (.exceeding excess) => .error (.exceeding excess)
    | .ok (.object entries) => .ok entries
    | .ok _ => .error (.config (.fileNotObject path))

def readGiven (tree : FileTree) (file : Option String) : Except SettingsFailure Entries :=
  match file with
  | none => .ok []
  | some name => if name = "" then .ok [] else read tree (Path.ofText name)

def text (draft : Draft) : Except PairError String :=
  draft.layout.map fun entries => Json.document (.object entries)

def save (tree : FileTree) (path : Path) (draft : Draft) :
    Except SettingsFailure (FileTree × String) := do
  let content ← (text draft).mapError SettingsFailure.pairs
  let written ← (tree.write path (.text content)).mapError (refused (.notSaved path))
  .ok (written, content)

end SettingsFile

def overrideLayer (overrides : Value) : Except SettingsFailure Entries :=
  if overrides.isTruthy then
    (overrides.pairs.mapError SettingsFailure.pairs).map fun pairs =>
      pairs.map fun pair => (keyText pair.1, pair.2)
  else .ok []

def Settings.ofLayers (layers : List Entries) : Except SettingsFailure Settings :=
  (Draft.ofLayers layers >>= Draft.check).mapError SettingsFailure.config

def Settings.load (tree : FileTree) (overrides : Value) (file : Option String) :
    Except SettingsFailure Settings := do
  let layer ← SettingsFile.readGiven tree file
  let further ← overrideLayer overrides
  Settings.ofLayers [layer, further]

def Settings.ofOverrides (overrides : Value) : Except SettingsFailure Settings :=
  overrideLayer overrides >>= fun layer => Settings.ofLayers [layer]

end SqlScaffold
