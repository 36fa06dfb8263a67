import SqlScaffold.Generator

/-!
Reports of runs: the units that were stored, the failures that were passed over, and the warnings.
-/

namespace SqlScaffold

structure Diagnostic where
  kind : String
  subject : String
  message : String
  deriving DecidableEq, Repr

def Diagnostic.text (diagnostic : Diagnostic) : String :=
  "[" ++ diagnostic.kind ++ "] " ++ diagnostic.subject ++ ": " ++ diagnostic.message

def Diagnostic.record (diagnostic : Diagnostic) : LogRecord :=
  ⟨.error, .diagnosing, diagnostic.text⟩

def findUnit (name : String) (units : List SourceUnit) : Option SourceUnit :=
  units.find? fun unit => name == unit.name || name == unit.qualifiedName

structure Report where
  units : List SourceUnit := []
  diagnostics : List Diagnostic := []
  warnings : List String := []
  scanned : Int := 0
  deriving DecidableEq, Repr

namespace Report

def isSuccess (report : Report) : Bool := report.diagnostics.isEmpty

def unit? (report : Report) (name : String) : Option SourceUnit := findUnit name report.units

def counts (report : Report) : List (String × Int) :=
  [("models_scanned", report.scanned), ("artifacts_emitted", report.units.length),
    ("diagnostics", report.diagnostics.length), ("warnings", report.warnings.length)]

def addUnit (report : Report) (unit : SourceUnit) : Report :=
  { report with units := report.units ++ [unit] }

def addWarnings (report : Report) (warnings : List String) : Report :=
  { report with warnings := report.warnings ++ warnings }

def addScanned (report : Report) : Report := { report with scanned := report.scanned + 1 }

def addDiagnostic (report : Report) (diagnostic : Diagnostic) : Logged Report :=
  ⟨[diagnostic.record], { report with diagnostics := report.diagnostics ++ [diagnostic] }⟩

end Report

end SqlScaffold
