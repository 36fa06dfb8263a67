import Mathlib.Logic.Basic
import SqlScaffold.Proofs.Scan.Annotation

/-!
Annotations with arguments. The scan knows an optional type by its parts alone: one of them is the
type of `None`, and one other is left. Any annotation with such arguments is therefore read as that
other part, whatever it was written with, and every other one is rejected.
-/

namespace SqlScaffold.Scan

namespace TypeHint

/-- An annotation with arguments, other than a union and the mark of a static member. -/
inductive IsParameterized : TypeHint → Prop
  | formed {name arguments} : name ≠ staticForm → IsParameterized (.formed name arguments)
  | applied {origin arguments} : IsParameterized (.applied origin arguments)
  | callable {parameters result} : IsParameterized (.callable parameters result)
  | remarked {hint remarks} : IsParameterized (.remarked hint remarks)

def Leaves (hint part : TypeHint) : Prop :=
  hint.parts.any isNoneType = true ∧ hint.furtherParts = [part]

/-- The declared type that an annotation names: a text and a class name one, and any annotation
that leaves a part names what that part names. -/
inductive Names : TypeHint → String → Prop
  | text {content} : Text.trim content ≠ "" → Names (.literal (.text content)) (Text.trim content)
  | type {named} : named ≠ genericClass → Names (.type named) (declaredName named)
  | part {hint part typeName} : Leaves hint part → Names part typeName → Names hint typeName

def Passes (hint : TypeHint) : Prop :=
  (∃ typeName, hint.Names typeName) ∨ ∃ value, hint.Bears value

theorem typeless_ne_some {hint : TypeHint} {typeName : String} :
    typeless hint ≠ .ok (some typeName) := by
  unfold typeless
  split <;> simp

theorem names_of_typeName?_own {hint : TypeHint} {typeName : String}
    (complete : hint.parts.any isNoneType = false)
    (typed : typeName? hint = .ok (some typeName)) : Names hint typeName := by
  cases hint with
  | literal content =>
    cases content with
    | text written =>
      by_cases blank : Text.trim written = ""
      · simp [typeName?, blank] at typed
      · simp only [typeName?, if_neg blank, Except.ok.injEq, Option.some.injEq] at typed
        exact typed ▸ .text blank
    | _ => exact (typeless_ne_some typed).elim
  | type named =>
    by_cases generic : named = genericClass
    · simp [typeName?, generic] at typed
    · simp only [typeName?, if_neg generic, Except.ok.injEq, Option.some.injEq] at typed
      exact typed ▸ .type generic
  | union _ _ | formed _ _ | applied _ _ =>
    rw [parts] at complete
    simp only [typeName?, complete, Bool.false_eq_true, if_false] at typed
    exact (typeless_ne_some typed).elim
  | callable parameters result =>
    rw [any_parts_callable] at complete
    simp only [typeName?, complete, Bool.false_eq_true, if_false] at typed
    exact (typeless_ne_some typed).elim
  | remarked hint remarks =>
    rw [parts, List.any_cons, Bool.or_eq_false_iff] at complete
    simp only [typeName?, complete.1, complete.2, Bool.false_eq_true, if_false] at typed
    exact (typeless_ne_some typed).elim
  | _ => exact (typeless_ne_some typed).elim

/-- The scan reads an annotation as the declared type that it names, and no other as any. -/
theorem typeName?_eq_some_iff {hint : TypeHint} {typeName : String} :
    typeName? hint = .ok (some typeName) ↔ Names hint typeName := by
  constructor
  · induction hint using parts_induction with
    | step hint ih =>
      intro typed
      cases optional : hint.parts.any isNoneType with
      | false => exact names_of_typeName?_own optional typed
      | true =>
        rw [typeName?_beside optional] at typed
        split at typed
        · next part alone =>
          have inside : part ∈ hint.furtherParts := by simp [alone]
          exact .part ⟨optional, alone⟩ (ih part (List.mem_filter.mp inside).1 typed)
        · cases typed
  · intro names
    induction names with
    | text given => simp [typeName?, given]
    | type proper => simp [typeName?, proper]
    | part leaves _ ih =>
      rw [typeName?_beside leaves.1, leaves.2]
      exact ih

theorem typeName?_eq_none_iff {hint : TypeHint} :
    typeName? hint = .ok none ↔ ¬hint.Passes := by
  simp only [Passes, ← typeName?_eq_some_iff, ← typeName?_eq_error_iff]
  cases typeName? hint with
  | error value => simp
  | ok found => cases found <;> simp

theorem Leaves.passes_iff {hint part : TypeHint} (leaves : hint.Leaves part) :
    hint.Passes ↔ part.Passes := by
  refine not_iff_not.mp ?_
  rw [← typeName?_eq_none_iff, ← typeName?_eq_none_iff, typeName?_beside leaves.1, leaves.2]

namespace IsParameterized

variable {hint given : TypeHint}

/-- An annotation with arguments that can be looked up passes for a type only by its parts. -/
theorem passes_iff (parameterized : hint.IsParameterized) (hashable : hint.unhashable? = none) :
    hint.Passes ↔ ∃ part, hint.Leaves part ∧ part.Passes := by
  constructor
  · rintro (⟨typeName, names⟩ | ⟨value, bears⟩)
    · cases names with
      | part leaves names => exact ⟨_, leaves, .inl ⟨_, names⟩⟩
      | _ => cases parameterized
    · cases bears with
      | own complete found => cases hashable.symm.trans found
      | beside optional alone bears => exact ⟨_, ⟨optional, alone⟩, .inr ⟨_, bears⟩⟩
  · rintro ⟨part, leaves, passes⟩
    exact leaves.passes_iff.mpr passes

end IsParameterized

end TypeHint

open TypeHint

end SqlScaffold.Scan
