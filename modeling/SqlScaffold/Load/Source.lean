import SqlScaffold.Load.Module
import SqlScaffold.Load.Url
import SqlScaffold.Text.Case

/-!
Sources of declarations: files, addresses on the web, and modules. What is loaded comes with the
name of its source, and every step leaves a record.
-/

namespace SqlScaffold.Load

open Files Scan Text

/-- Why nothing is loaded: for a reason that is reported, or because a path, the bytes of a file,
an address or a module cannot be used at all. -/
inductive LoadFailure where
  | load (error : LoadError)
  | access (error : AccessError)
  | undecodable (fault : Utf8Fault)
  | host (error : HostError)
  | module (failure : ImportFailure)
  | exceeding (excess : Json.Excess)
  | noName
  | unexpected (exception message : String)
  deriving DecidableEq, Repr

def LoadFailure.message : LoadFailure → String
  | load error => error.message
  | access error => error.message
  | undecodable fault => fault.message
  | host error => error.message
  | module failure => failure.message
  | exceeding excess => excess.message
  | noName => "'list' object has no attribute 'startswith'"
  | unexpected _ message => message

abbrev Loaded (α : Type) := Logged (Except LoadFailure α)

def record (level : Level) (message : String) : LogRecord := ⟨level, .loading, message⟩

def loadedRecord (count : Nat) (source : String) : LogRecord :=
  record .info ("Loaded " ++ toString count ++ " declaration(s) from " ++ source)

def refused {α : Type} (error : LoadError) : Except LoadFailure α := .error (.load error)

def readDocument (wrap : Json.ReadError → LoadError) (document : String) :
    Except LoadFailure Value :=
  match Json.read document with
  | .ok value => .ok value
  | .error (.malformed error) => refused (wrap error)
  | .error (.exceeding excess) => .error (.exceeding excess)

def ofDocument (document : Value) (source : String) : Loaded (List Value) :=
  match declarationsOf document source with
  | .error error => .silent (refused error)
  | .ok declarations => ⟨[loadedRecord declarations.length source], .ok declarations⟩

def readFile (tree : FileTree) (path : Path) : Except LoadFailure Value := do
  let content ← (tree.read path).mapError fun error =>
    match error with
    | .system error => LoadFailure.load (.unreadable path error)
    | .nullCharacter => .access .nullCharacter
  let text ← content.readText.mapError LoadFailure.undecodable
  readDocument (.invalidFile path) text

def fromFile (tree : FileTree) (path : Path) : Loaded (List Value) :=
  .after [record .debug ("Loading model declarations from file: " ++ path.text)] <|
    match tree.holds path with
    | .error error => .silent (.error (.access error))
    | .ok false => .silent (refused (.fileNotFound path))
    | .ok true =>
      let warnings :=
        if lower path.suffix = ".json" then []
        else [record .warning ("File does not have .json extension: " ++ path.text)]
      .after warnings <|
        match readFile tree path with
        | .error error => .silent (.error error)
        | .ok document => ofDocument document path.text

inductive Response where
  | answer (code : Int) (body : String)
  | timeout
  | failed (reason : String)
  | broken (exception message : String)
  deriving DecidableEq, Repr

def timeouts : List String := ["Timeout", "ReadTimeout", "ConnectTimeout"]

def brokenResponses : List (String × (String → Response)) :=
  let warning (name : String) : String × (String → Response) := (name, .broken name)
  [("HTTPError", fun _ =>
      .broken "AttributeError" "'NoneType' object has no attribute 'status_code'"),
    ("JSONDecodeError", fun _ =>
      .broken "TypeError"
        "JSONDecodeError.__init__() missing 2 required positional arguments: 'doc' and 'pos'"),
    warning "RequestsWarning", warning "FileModeWarning", warning "RequestsDependencyWarning"]

def Response.ofException (exception message : String) : Response :=
  if timeouts.contains exception then .timeout
  else
    match brokenResponses.lookup exception with
    | some response => response message
    | none => .failed message

def checkUrl (url : String) : Except LoadFailure Unit :=
  match isUrl url with
  | .error error => .error (.host error)
  | .ok false => refused (.invalidUrl url)
  | .ok true => .ok ()

def isErrorCode (code : Int) : Bool := decide (400 ≤ code) && decide (code < 600)

def readResponse (url : String) (response : Response) : Except LoadFailure Value :=
  match response with
  | .timeout => refused (.timeout url)
  | .failed reason => refused (.request url reason)
  | .broken exception message => .error (.unexpected exception message)
  | .answer code body =>
    if isErrorCode code then refused (.status url code)
    else readDocument (.invalidResponse url) body

def fromUrl (url : String) (response : Response) : Loaded (List Value) :=
  .after [record .debug ("Loading model declarations from URL: " ++ url)] <|
    match checkUrl url >>= fun _ => readResponse url response with
    | .error error => .silent (.error error)
    | .ok document => ofDocument document url

def fromNoModule : Loaded (List ModelClass) :=
  ⟨[record .debug "Importing model module: []"], .error .noName⟩

def fromModule (sources : ModuleSources) (name : String) : Loaded (List ModelClass) :=
  .after [record .debug ("Importing model module: " ++ name)] <|
    match importClasses sources name with
    | .error reason =>
      if reason.isImportError then .silent (refused (.notImported name reason.message))
      else .silent (.error (.module reason))
    | .ok [] => ⟨[record .warning ("No @dynamic_model classes found in " ++ name)], .ok []⟩
    | .ok classes => .silent (.ok classes)

end SqlScaffold.Load
