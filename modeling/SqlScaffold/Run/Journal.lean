import SqlScaffold.Number.Amount
import SqlScaffold.Run.Report
import SqlScaffold.Value

/-!
Journals: reports that are written by hand. A journal takes any values, and only what is counted
has to be a number. A report of a run is a journal of texts: what it answers and how it grows is what
its journal answers and how that grows.
-/

namespace SqlScaffold

structure Remark where
  kind : Value
  subject : Value
  message : Value

def Remark.text (remark : Remark) : String :=
  Diagnostic.text ⟨remark.kind.shown, remark.subject.shown, remark.message.shown⟩

def Remark.record (remark : Remark) : LogRecord := ⟨.error, .diagnosing, remark.text⟩

structure NotedUnit where
  package : Value
  name : Value
  body : Value

def NotedUnit.qualifiedName (unit : NotedUnit) : Value :=
  if unit.package.isTruthy then .text (unit.package.shown ++ "." ++ unit.name.shown)
  else unit.name

def NotedUnit.isCalled (name : Value) (unit : NotedUnit) : Bool :=
  unit.name.same name || unit.qualifiedName.same name

structure Journal where
  units : List NotedUnit := []
  remarks : List Remark := []
  warnings : List Value := []
  scanned : Amount := .whole 0

namespace Journal

def isSuccess (journal : Journal) : Bool := journal.remarks.isEmpty

def unit? (journal : Journal) (name : Value) : Option NotedUnit :=
  journal.units.find? (NotedUnit.isCalled name)

def counts (journal : Journal) : Entries :=
  [("models_scanned", journal.scanned.value),
    ("artifacts_emitted", .int journal.units.length),
    ("diagnostics", .int journal.remarks.length), ("warnings", .int journal.warnings.length)]

def addUnit (journal : Journal) (unit : NotedUnit) : Journal :=
  { journal with units := journal.units ++ [unit] }

def addWarning (journal : Journal) (warning : Value) : Journal :=
  { journal with warnings := journal.warnings ++ [warning] }

def addScanned (journal : Journal) (count : Value) : Except AmountError Journal :=
  (journal.scanned.add count).map fun scanned => { journal with scanned }

def addRemark (journal : Journal) (remark : Remark) : Logged Journal :=
  ⟨[remark.record], { journal with remarks := journal.remarks ++ [remark] }⟩

end Journal

def SourceUnit.noted (unit : SourceUnit) : NotedUnit :=
  ⟨.text unit.package, .text unit.name, .text unit.body⟩

def Diagnostic.remark (diagnostic : Diagnostic) : Remark :=
  ⟨.text diagnostic.kind, .text diagnostic.subject, .text diagnostic.message⟩

theorem SourceUnit.qualifiedName_noted (unit : SourceUnit) :
    unit.noted.qualifiedName = .text unit.qualifiedName := by
  by_cases packaged : unit.package = ""
  · simp [noted, NotedUnit.qualifiedName, qualifiedName, qualify, Value.isTruthy, packaged]
  · simp [noted, NotedUnit.qualifiedName, qualifiedName, qualify, Value.isTruthy, packaged,
      Value.shown]

theorem SourceUnit.isCalled_noted (unit : SourceUnit) (name : String) :
    unit.noted.isCalled (.text name) = (name == unit.name || name == unit.qualifiedName) := by
  rw [NotedUnit.isCalled, qualifiedName_noted]
  simp only [noted, Value.same, BEq.comm]

namespace Report

def journal (report : Report) : Journal where
  units := report.units.map SourceUnit.noted
  remarks := report.diagnostics.map Diagnostic.remark
  warnings := report.warnings.map .text
  scanned := .whole report.scanned

variable (report : Report)

theorem isSuccess_journal : report.journal.isSuccess = report.isSuccess := by
  simp [journal, Journal.isSuccess, isSuccess]

theorem unit?_journal (name : String) :
    report.journal.unit? (.text name) = (report.unit? name).map SourceUnit.noted := by
  have called : NotedUnit.isCalled (.text name) ∘ SourceUnit.noted =
      fun unit => name == unit.name || name == unit.qualifiedName :=
    funext fun unit => unit.isCalled_noted name
  rw [Journal.unit?, journal, List.find?_map, called, unit?, findUnit]

theorem counts_journal :
    report.journal.counts = report.counts.map fun count => (count.1, .int count.2) := by
  simp [journal, Journal.counts, counts, Amount.value]

theorem addUnit_journal (unit : SourceUnit) :
    (report.addUnit unit).journal = report.journal.addUnit unit.noted := by
  simp [journal, addUnit, Journal.addUnit]

theorem addWarnings_journal (warnings : List String) :
    (report.addWarnings warnings).journal =
      (warnings.map Value.text).foldl Journal.addWarning report.journal := by
  induction warnings generalizing report with
  | nil => simp [addWarnings]
  | cons warning rest ih =>
    have step : report.addWarnings (warning :: rest) =
        (report.addWarnings [warning]).addWarnings rest := by simp [addWarnings]
    rw [step, ih]
    simp [journal, addWarnings, Journal.addWarning]

theorem addScanned_journal :
    report.journal.addScanned (.int 1) = .ok report.addScanned.journal := by
  simp [journal, addScanned, Journal.addScanned, Amount.add_int, Except.map]

theorem addDiagnostic_journal (diagnostic : Diagnostic) :
    report.journal.addRemark diagnostic.remark =
      (report.addDiagnostic diagnostic).map journal := by
  simp [journal, addDiagnostic, Journal.addRemark, Logged.map, Remark.record, Diagnostic.record,
    Remark.text, Diagnostic.remark, Value.shown]

end Report

end SqlScaffold
