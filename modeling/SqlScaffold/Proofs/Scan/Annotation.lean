import SqlScaffold.Proofs.Scan.Declaration

/-!
Annotations that end a run. The scan of a class looks its annotations up as keys, and one that holds
a list or an object cannot be looked up. Beside the type of `None` the scan goes on to the only other
part, so such a value may also stand deeper inside.
-/

namespace SqlScaffold.Scan

namespace TypeHint

def parts : TypeHint → List TypeHint
  | .union members _ => members
  | .formed _ arguments => arguments
  | .applied _ arguments => arguments
  | .callable parameters result =>
    (if areOpen parameters then parameters else [.literal (.list [])]) ++ [result]
  | .remarked hint remarks => hint :: remarks
  | _ => []

def furtherParts (hint : TypeHint) : List TypeHint := hint.parts.filter fun part => !part.isNoneType

/-- An annotation bears a value that cannot be looked up: the value stands in it, or in the only part
beside the type of `None`. -/
inductive Bears : TypeHint → UnhashableValue → Prop
  | own {hint value} : hint.parts.any isNoneType = false → hint.unhashable? = some value →
      Bears hint value
  | beside {hint part value} : hint.parts.any isNoneType = true → hint.furtherParts = [part] →
      Bears part value → Bears hint value

theorem typeless_eq_error_iff {hint : TypeHint} {value : UnhashableValue} :
    typeless hint = .error value ↔ hint.unhashable? = some value := by
  unfold typeless
  split
  · next other found => simp [found]
  · next found => simp [found]

theorem filter_further_eq_nil_iff {hints : List TypeHint} :
    hints.filter (fun part => !part.isNoneType) = [] ↔ hints.all isNoneType = true := by
  simp [List.filter_eq_nil_iff]

theorem soleTypeName?_eq (hints : List TypeHint) :
    soleTypeName? hints =
      match hints.filter fun part => !part.isNoneType with
      | [part] => typeName? part
      | _ => .ok none := by
  induction hints with
  | nil => simp [soleTypeName?]
  | cons first rest ih =>
    rw [soleTypeName?]
    by_cases missing : first.isNoneType
    · simp [missing, ih]
    · by_cases alone : rest.all isNoneType
      · simp [missing, alone, filter_further_eq_nil_iff.mpr alone]
      · obtain ⟨second, others, more⟩ :=
          List.exists_cons_of_ne_nil (mt filter_further_eq_nil_iff.mp alone)
        simp [missing, alone, more]

theorem isNoneType_of_areOpen {parameters : List TypeHint} (isOpen : areOpen parameters = true) :
    parameters.any isNoneType = false := by
  unfold areOpen at isOpen
  split at isOpen
  · rfl
  · rfl
  · cases isOpen

theorem any_parts_callable (parameters : List TypeHint) (result : TypeHint) :
    (callable parameters result).parts.any isNoneType = result.isNoneType := by
  by_cases isOpen : areOpen parameters
  · simp [parts, isOpen, List.any_append, isNoneType_of_areOpen isOpen]
  · have listed : isNoneType (.literal (.list [])) = false := rfl
    simp [parts, isOpen, listed]

theorem typeName?_own {hint : TypeHint} {value : UnhashableValue}
    (complete : hint.parts.any isNoneType = false) :
    typeName? hint = .error value ↔ hint.unhashable? = some value := by
  cases hint with
  | literal content => cases content <;> simp [typeName?, typeless_eq_error_iff, unhashable?]
  | union _ _ | formed _ _ | applied _ _ =>
    rw [parts] at complete
    simp [typeName?, complete, typeless_eq_error_iff]
  | callable parameters result =>
    rw [any_parts_callable] at complete
    simp [typeName?, complete, typeless_eq_error_iff]
  | remarked hint remarks =>
    rw [parts, List.any_cons, Bool.or_eq_false_iff] at complete
    simp [typeName?, complete.1, complete.2, typeless_eq_error_iff]
  | _ => simp [typeName?, typeless_eq_error_iff, unhashable?]

theorem typeName?_beside {hint : TypeHint} (optional : hint.parts.any isNoneType = true) :
    typeName? hint =
      match hint.furtherParts with
      | [part] => typeName? part
      | _ => .ok none := by
  cases hint with
  | union _ _ | formed _ _ | applied _ _ =>
    rw [parts] at optional
    simp only [typeName?, optional, if_true, soleTypeName?_eq, furtherParts, parts]
  | callable parameters result =>
    rw [any_parts_callable] at optional
    by_cases isOpen : areOpen parameters
    · simp [typeName?, optional, isOpen, soleTypeName?_eq, furtherParts, parts]
    · have listed : isNoneType (.literal (.list [])) = false := rfl
      have failing : typeless (.literal (.list [])) = .error ⟨"list"⟩ := rfl
      simp [typeName?, optional, isOpen, furtherParts, parts, listed, failing]
  | remarked hint remarks =>
    by_cases missing : hint.isNoneType
    · simp [typeName?, missing, soleTypeName?_eq, furtherParts, parts]
    · have among : remarks.any isNoneType = true := by simpa [parts, missing] using optional
      by_cases alone : remarks.all isNoneType
      · simp [typeName?, missing, among, alone, furtherParts, parts,
          filter_further_eq_nil_iff.mpr alone]
      · obtain ⟨second, others, more⟩ :=
          List.exists_cons_of_ne_nil (mt filter_further_eq_nil_iff.mp alone)
        simp [typeName?, missing, among, alone, furtherParts, parts, more]
  | _ => cases optional

mutual

theorem parts_induction {motive : TypeHint → Prop}
    (step : ∀ hint, (∀ part ∈ hint.parts, motive part) → motive hint) : ∀ hint, motive hint
  | .literal _ | .constant _ _ | .type _ | .form _ | .forward _ => step _ (by simp [parts])
  | .union members _ => step _ (parts_induction_all step members)
  | .formed _ arguments => step _ (parts_induction_all step arguments)
  | .applied _ arguments => step _ (parts_induction_all step arguments)
  | .callable parameters result => by
    -- The list of parameters is no term of the annotation, so it needs a step of its own.
    have listed : motive (.literal (.list [])) := step _ (by simp [parts])
    refine step _ fun part inside => ?_
    rcases List.mem_append.mp inside with first | last
    · split at first
      · exact parts_induction_all step parameters part first
      · exact List.mem_singleton.mp first ▸ listed
    · exact List.mem_singleton.mp last ▸ parts_induction step result
  | .remarked hint remarks =>
    step _ (List.forall_mem_cons.mpr
      ⟨parts_induction step hint, parts_induction_all step remarks⟩)

theorem parts_induction_all {motive : TypeHint → Prop}
    (step : ∀ hint, (∀ part ∈ hint.parts, motive part) → motive hint) :
    ∀ hints : List TypeHint, ∀ hint ∈ hints, motive hint
  | [] => by simp
  | first :: rest =>
    List.forall_mem_cons.mpr ⟨parts_induction step first, parts_induction_all step rest⟩

end

/-- The scan of an annotation fails exactly if it bears a value that cannot be looked up. -/
theorem typeName?_eq_error_iff {hint : TypeHint} {value : UnhashableValue} :
    typeName? hint = .error value ↔ Bears hint value := by
  constructor
  · induction hint using parts_induction with
    | step hint ih =>
      intro failed
      cases optional : hint.parts.any isNoneType with
      | false => exact .own optional ((typeName?_own optional).mp failed)
      | true =>
        rw [typeName?_beside optional] at failed
        split at failed
        · next part alone =>
          have inside : part ∈ hint.furtherParts := by simp [alone]
          exact .beside optional alone (ih part (List.mem_filter.mp inside).1 failed)
        · cases failed
  · intro bears
    induction bears with
    | own complete found => exact (typeName?_own complete).mpr found
    | beside optional alone _ ih =>
      rw [typeName?_beside optional, alone]
      exact ih

end TypeHint

inductive Meets : List (String × TypeHint) → TypeHint.UnhashableValue → Prop
  | here {name hint rest value} : hint.isStatic = false → hint.Bears value →
      Meets ((name, hint) :: rest) value
  | later {name hint rest value} :
      hint.isStatic = true ∨ (∃ typeName, hint.typeName? = .ok (some typeName)) →
      Meets rest value → Meets ((name, hint) :: rest) value

theorem meets_cons_iff {name : String} {hint : TypeHint} {rest : List (String × TypeHint)}
    {value : TypeHint.UnhashableValue} :
    Meets ((name, hint) :: rest) value ↔
      (hint.isStatic = false ∧ hint.typeName? = .error value) ∨
        ((hint.isStatic = true ∨ ∃ typeName, hint.typeName? = .ok (some typeName)) ∧
          Meets rest value) := by
  rw [TypeHint.typeName?_eq_error_iff]
  constructor
  · rintro (⟨counts, bears⟩ | ⟨passed, further⟩)
    · exact .inl ⟨counts, bears⟩
    · exact .inr ⟨passed, further⟩
  · rintro (⟨counts, bears⟩ | ⟨passed, further⟩)
    · exact .here counts bears
    · exact .later passed further

theorem value_scanAttributes_unhashable_iff {model : String} {attributes : List (String × TypeHint)}
    {value : TypeHint.UnhashableValue} :
    (scanAttributes model attributes).value = .error (.unhashable value) ↔
      Meets attributes value := by
  induction attributes with
  | nil =>
    refine iff_of_false (by simp [scanAttributes, Logged.silent]) ?_
    rintro ⟨⟩
  | cons entry rest ih =>
    obtain ⟨name, hint⟩ := entry
    rw [meets_cons_iff, ← ih, scanAttributes]
    cases static : hint.isStatic with
    | true => simp
    | false =>
      cases typed : hint.typeName? with
      | error other => simp [Logged.silent]
      | ok found =>
        cases found with
        | none => simp [Logged.silent]
        | some typeName =>
          simp [Logged.map, Outcome.map_eq_error_iff]

def Input.Stops (input : Input) (value : TypeHint.UnhashableValue) : Prop :=
  ∃ declared, input = .modelClass declared ∧ declared.options.isSome ∧
    Meets declared.attributes value

theorem value_finish_ne_unhashable {package name : String} {fields : List Field}
    {table : Option String} {value : TypeHint.UnhashableValue} :
    ((finish package name fields table).map fun made =>
      made.mapError ScanFailure.rejected).value ≠ .error (.unhashable value) := by
  intro failed
  obtain ⟨error, _, same⟩ := Outcome.mapError_eq_error_iff.mp failed
  cases same

/-- The scan of an input fails other than by a rejection exactly if the input stops it. -/
theorem value_scan_unhashable_iff {input : Input} (defaultPackage : Option String)
    {value : TypeHint.UnhashableValue} :
    (input.scan defaultPackage).value = .error (.unhashable value) ↔ input.Stops value := by
  cases input with
  | model finished => simp [Input.scan, Logged.silent, Input.Stops]
  | declaration content =>
    refine iff_of_false (fun failed => ?_) (by simp [Input.Stops])
    obtain ⟨error, same⟩ := rejected_of_scan failed
    cases same
  | modelClass declared =>
    simp only [Input.Stops, Input.modelClass.injEq, exists_eq_left', Input.scan, scanClass]
    cases declared.options with
    | none => simp [Logged.silent]
    | some options =>
      simp only [Option.isSome_some, true_and, ← @value_scanAttributes_unhashable_iff declared.name]
      unfold Logged.andThenOk
      cases scanned : (scanAttributes declared.name declared.attributes).value with
      | error failure => simp
      | ok fields => simpa using value_finish_ne_unhashable

end SqlScaffold.Scan
