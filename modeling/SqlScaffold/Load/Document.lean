import SqlScaffold.Files.FileTree
import SqlScaffold.Json.Reader

/-!
Documents with declarations: one declaration, a list of them, or an object whose `models` are such
a list. The entries themselves are not looked at.
-/

namespace SqlScaffold.Load

open Files

inductive LoadError where
  | modelsNotList (source : String)
  | unexpected (source kind : String)
  | fileNotFound (path : Path)
  | invalidFile (path : Path) (error : Json.ReadError)
  | unreadable (path : Path) (error : SystemError)
  | invalidUrl (url : String)
  | timeout (url : String)
  | status (url : String) (code : Int)
  | invalidResponse (url : String) (error : Json.ReadError)
  | request (url reason : String)
  | notImported (name reason : String)
  deriving DecidableEq, Repr

def LoadError.message : LoadError → String
  | modelsNotList source => "'models' must be a list in " ++ source
  | unexpected source kind =>
    "Expected a declaration object or list in " ++ source ++ ", got " ++ kind
  | fileNotFound path => "File not found: " ++ path.text
  | invalidFile path error => "Invalid JSON in file " ++ path.text ++ ": " ++ error.message
  | unreadable path error => "Error reading file " ++ path.text ++ ": " ++ error.message
  | invalidUrl url => "Invalid URL: " ++ url
  | timeout url => "Request timeout for URL: " ++ url
  | status url code => "HTTP error " ++ toString code ++ " for URL: " ++ url
  | invalidResponse url error => "Invalid JSON response from URL " ++ url ++ ": " ++ error.message
  | request url reason => "Request error for URL " ++ url ++ ": " ++ reason
  | notImported name reason => "Cannot import module " ++ name ++ ": " ++ reason

def declarationsOf (document : Value) (source : String) : Except LoadError (List Value) :=
  match document with
  | .list items => .ok items
  | .object entries =>
    match Entries.get? entries "models" with
    | some (.list items) => .ok items
    | some _ => .error (.modelsNotList source)
    | none => .ok [.object entries]
  | other => .error (.unexpected source other.kind)

end SqlScaffold.Load
