import SqlScaffold.Template.Units

/-!
Libraries of templates. A template is found by the segments of its name; empty segments and points
do not count, and a name that leads out of the library finds nothing.
-/

namespace SqlScaffold.Template

open Text

inductive Library where
  | empty
  | directory (templates : List (String × List Part))

def tableSupportName : String := "table_support.java.j2"

def mapperName : String := "mapper.java.j2"

def Library.shipped : Library :=
  .directory [(tableSupportName, tableSupport), (mapperName, mapper)]

inductive TemplateFault where
  | notFound (name : String)
  | notInDirectory (name : String)
  | reservedName (name : String)
  | render (error : RenderError)
  deriving DecidableEq, Repr

def TemplateFault.message : TemplateFault → String
  | notFound name => name
  | notInDirectory name => quoted name ++ " not found in search path: '<templates>'"
  | reservedName name => "Template.render() got multiple values for argument " ++ quoted name
  | render error => error.message

structure TemplateError where
  template : String
  fault : TemplateFault
  deriving DecidableEq, Repr

def TemplateError.message (error : TemplateError) : String :=
  "Cannot render " ++ error.template ++ ": " ++ error.fault.message

def segments (name : String) : List String :=
  (splitAtChar '/' name).filter fun segment => segment != "" && segment != "."

def Library.find (library : Library) (name : String) : Except TemplateFault (List Part) :=
  match library with
  | .empty => .error (.notFound name)
  | .directory templates =>
    if (segments name).contains ".." then .error (.notFound name)
    else
      match templates.lookup (joinWith "/" (segments name)) with
      | some parts => .ok parts
      | none => .error (.notInDirectory name)

def Library.holds (library : Library) (name : String) : Bool := (library.find name).isOk

def reservedName : String := "self"

def Library.render (library : Library) (name : String) (context : Entries) :
    Except TemplateError String :=
  let rendered := do
    let parts ← library.find name
    if (Entries.get? context reservedName).isSome then throw (TemplateFault.reservedName reservedName)
    (renderAll context parts).mapError TemplateFault.render
  rendered.mapError fun fault => ⟨name, fault⟩

end SqlScaffold.Template
