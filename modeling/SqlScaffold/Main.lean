import SqlScaffold.CommandLine.Command

/-!
The program. It reads the named files into a tree, carries out the command on it, prints what the
command printed, and writes the files that the command changed. Modules and addresses are out of
its reach.
-/

namespace SqlScaffold.Program

open CommandLine Files

def addExisting (tree : FileTree) (name : String) : IO FileTree := do
  let path := Path.ofText name
  try
    let place ← IO.FS.realPath name
    if ← place.isDir then return (tree.ensureDirectories path).1
    let bytes ← IO.FS.readBinFile name
    let above := (tree.ensureDirectories path.parent).1
    return (above.write path (.bytes bytes.toList)).toOption.getD above
  catch _ => return tree

def pathText (location : Location) : String :=
  match location with
  | "/" :: parts => "/" ++ Text.joinWith "/" parts
  | parts => Text.joinWith "/" parts

def writeChanges (before after : FileTree) : IO Unit :=
  after.files.forM fun entry => do
    if before.files.lookup entry.1 != some entry.2 then
      IO.FS.createDirAll (pathText entry.1.dropLast)
      match entry.2 with
      | .text content => IO.FS.writeFile (pathText entry.1) content
      | .bytes bytes => IO.FS.writeBinFile (pathText entry.1) ⟨bytes.toArray⟩

def showRecords (level : Level) (logs : List LogRecord) : IO Unit :=
  (recordsFrom level logs).forM fun entry =>
    IO.eprintln (entry.level.name ++ " | " ++ entry.source.name ++ " | " ++ entry.message)

def showStop (stop : Stop) : IO UInt32 := do
  match stop with
  | .usage error =>
    IO.eprintln (programName ++ ": error: " ++ error.message)
    return exitUsage.toUInt32
  | .help =>
    IO.println ("usage: " ++ programName ++ " [option ...] [FILE ...]")
    Parameter.all.forM fun parameter => IO.println ("  " ++ parameter.title)
    return exitOk.toUInt32
  | .version =>
    IO.println versionText
    return exitOk.toUInt32

def runCommand (arguments : Arguments) : IO UInt32 := do
  let tree ← (arguments.files ++ arguments.config.toList).foldlM addExisting ⟨[], []⟩
  let (result, traces) := (execute ⟨[], .failed "no network"⟩ arguments).run.run { tree }
  traces.printed.forM IO.println
  showRecords (arguments.level.getD .warning) traces.logs
  writeChanges tree traces.tree
  match result with
  | .ok code => return code.toUInt32
  | .error failure =>
    IO.eprintln (programName ++ ": " ++ failure.message)
    return exitDiagnostics.toUInt32

end SqlScaffold.Program

def main (given : List String) : IO UInt32 :=
  match SqlScaffold.CommandLine.Arguments.read given with
  | .error stop => SqlScaffold.Program.showStop stop
  | .ok arguments => SqlScaffold.Program.runCommand arguments
