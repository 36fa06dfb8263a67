import SqlScaffold.Emit.Destination
import SqlScaffold.Proofs.Console.Printed
import SqlScaffold.Proofs.Emit.Delivery
import SqlScaffold.Proofs.Emit.Directory

/-!
When destinations answer. Memory always does; a folder and the console do unless the name of a unit
keeps them from it. On the console a unit is printed if the line with its name is, and only a bracket
in the name can keep that line from being printed.
-/

namespace SqlScaffold.Emit

open Console

theorem toTerminal_answered_iff (printout : Printout) (unit : SourceUnit) :
    (toTerminal printout unit).Answered ↔ Printable (heading unit.qualifiedName) := by
  rw [← printedLines_ok_iff]
  unfold toTerminal
  cases printed : printedLines (heading unit.qualifiedName) with
  | ok lines => exact iff_of_true (.inl ⟨none, rfl⟩) ⟨lines, rfl⟩
  | error error => simp

def headingText (name : String) : List Char :=
  bar.toList ++ " 📄 ".toList ++ name.toList ++ [' '] ++ List.replicate 19 '═'

theorem heading_toList (name : String) :
    (heading name).toList = '\n' :: '[' :: ("green".toList ++ ']' :: (headingText name ++ '═' ::
      '[' :: ("/green".toList ++ ']' :: ['\n']))) := by
  have ends : bar.toList = List.replicate 19 '═' ++ ['═'] := by decide
  simp [heading, headingText, ends]

theorem headingText_plain {name : String} (plain : '[' ∉ name.toList) :
    '[' ∉ headingText name := by
  have bars : '[' ∉ bar.toList := by decide
  simp [headingText, bars, plain]

theorem scan_heading {name : String} (plain : '[' ∉ name.toList) :
    ∃ before inside behind first second, scan 0 0 0 [] (heading name).toList =
      [.plain before, .plain [], .tag first "green".toList, .plain inside, .plain [],
        .tag second "/green".toList, .plain behind] := by
  have opening (rest : List Char) : tagContent? ("green".toList ++ ']' :: rest) =
      some "green".toList := by
    simp [tagContent?, startsTag]
  have closing : tagContent? ("/green".toList ++ ']' :: ['\n']) = some "/green".toList := by
    decide
  have start (rest : List Char) : scan 0 0 0 [] ('\n' :: rest) = scan 1 0 0 ['\n'] rest := by
    simp [scan]
  rw [heading_toList, start, scan_tag (opening _)]
  obtain ⟨held, read⟩ := scan_plain (headingText_plain plain) (by decide : '═' ≠ '\\')
    (by decide : '═' ≠ '[') (1 + 1 + ("green".toList.length + 1)) 0 []
    ('[' :: ("/green".toList ++ ']' :: ['\n']))
  rw [read, scan_tag closing]
  exact ⟨_, _, _, _, _, rfl⟩

theorem isStyleName_green : IsStyleName "green" :=
  isStyleName_of_lone (by decide +kernel) (by decide +kernel)

theorem printable_heading {name : String} (plain : '[' ∉ name.toList) :
    Printable (heading name) := by
  obtain ⟨before, inside, behind, first, second, pieces⟩ := scan_heading plain
  refine printable_of_isReadable ?_
  rw [pieces]
  have styled := (isReadable_nil.plain behind).styled isStyleName_green first second inside
  exact (styled.plain []).plain before

/-- What has to hold of a unit for a destination to answer. -/
def Destination.Takes (destination : Destination) (kept : Kept) (unit : SourceUnit) : Prop :=
  match destination with
  | memory => True
  | guardedMemory _ => True
  | folder directory => directory.Takes kept.tree unit
  | terminal => Printable (heading unit.qualifiedName)

theorem refusing_answered {σ : Type} {emitter : Emitter σ} {state : σ} {unit : SourceUnit}
    (answered : (emitter state unit).Answered) (reason? : SourceUnit → Option String) :
    (refusing reason? emitter state unit).Answered := by
  unfold refusing
  split
  · simp
  · exact answered

theorem within_answered {σ τ : Type} (emission : Emission σ) (keep : σ → τ) :
    (emission.within keep).Answered ↔ emission.Answered :=
  Iff.rfl

/-- A destination stores or refuses the units that it takes, and no others. -/
theorem Destination.answered_iff (destination : Destination) (kept : Kept) (unit : SourceUnit) :
    (destination.emitter kept unit).Answered ↔ destination.Takes kept unit := by
  cases destination with
  | memory =>
    simp only [Destination.emitter, keepInMemory, within_answered, Destination.Takes, iff_true]
    exact toMemory_answered kept.artifacts unit
  | guardedMemory reason? =>
    simp only [Destination.emitter, keepInMemory, within_answered, Destination.Takes, iff_true]
    exact refusing_answered (toMemory_answered kept.artifacts unit) reason?
  | folder directory =>
    simp only [Destination.emitter, within_answered, Destination.Takes]
    exact toDirectory_answered_iff directory kept.tree unit
  | terminal =>
    simp only [Destination.emitter, within_answered, Destination.Takes]
    exact toTerminal_answered_iff kept.printed unit

end SqlScaffold.Emit
