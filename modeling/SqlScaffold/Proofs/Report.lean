import SqlScaffold.Run.Report

/-!
Reports in parts. What a run reports is what its steps report, put together in order, and the
diagnostics of one stage are put together in the same way.
-/

namespace SqlScaffold.Report

def append (first second : Report) : Report where
  units := first.units ++ second.units
  diagnostics := first.diagnostics ++ second.diagnostics
  warnings := first.warnings ++ second.warnings
  scanned := first.scanned + second.scanned

def ofKind (kind : String) (report : Report) : List Diagnostic :=
  report.diagnostics.filter fun diagnostic => diagnostic.kind == kind

@[simp] theorem append_empty (report : Report) : report.append {} = report := by
  simp [append]

@[simp] theorem empty_append (report : Report) : append {} report = report := by
  simp [append]

theorem append_assoc (first second third : Report) :
    (first.append second).append third = first.append (second.append third) := by
  simp [append, Int.add_assoc]

@[simp] theorem ofKind_append (kind : String) (first second : Report) :
    (first.append second).ofKind kind = first.ofKind kind ++ second.ofKind kind := by
  simp [ofKind, append]

theorem length_diagnostics_of_kinds (report : Report) {first second third : String}
    (firstSecond : first ≠ second) (firstThird : first ≠ third) (secondThird : second ≠ third)
    (kinds : ∀ diagnostic ∈ report.diagnostics,
      diagnostic.kind = first ∨ diagnostic.kind = second ∨ diagnostic.kind = third) :
    report.diagnostics.length =
      (report.ofKind first).length + (report.ofKind second).length +
        (report.ofKind third).length := by
  unfold ofKind
  generalize report.diagnostics = diagnostics at kinds
  induction diagnostics with
  | nil => rfl
  | cons diagnostic rest ih =>
    have later := ih fun other member => kinds other (List.mem_cons_of_mem diagnostic member)
    rcases kinds diagnostic List.mem_cons_self with here | here | here
    · simp [here, firstSecond, firstThird, later]
      omega
    · simp [here, firstSecond.symm, secondThird, later]
      omega
    · simp [here, firstThird.symm, secondThird.symm, later]
      omega

end SqlScaffold.Report
