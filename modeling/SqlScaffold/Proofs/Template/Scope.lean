import SqlScaffold.Proofs.Outcome
import SqlScaffold.Proofs.Text.Lines
import SqlScaffold.Template.Part

/-!
Scopes of templates. A scope tells the shape of every value that a template may refer to, and a
template is checked against it without any value at hand. A checked template is written in every
context that fits its scope.
-/

namespace SqlScaffold.Template

open Source

/-- What a template expects of a value. A count is a number of blanks that can be written, also
twice. -/
inductive Shape where
  | any
  | text
  | count
  | list (item : Shape)
  | record (fields : List (String × Shape))

abbrev Scope := List (String × Shape)

inductive Fits : Value → Shape → Prop
  | any (value : Value) : Fits value .any
  | text (content : String) : Fits (.text content) .text
  | count {number once twice} :
      blankCount number = .ok once → blankCount (number * 2) = .ok twice →
      Fits (.int number) .count
  | list {items item} : (∀ member ∈ items, Fits member item) → Fits (.list items) (.list item)
  | record {entries : Entries} {fields : Scope} :
      (∀ name shape, fields.lookup name = some shape → (entries.get? name).isSome) →
      (∀ name shape value, fields.lookup name = some shape → entries.get? name = some value →
        Fits value shape) →
      Fits (.object entries) (.record fields)

theorem Fits.record_nil (entries : Entries) : Fits (.object entries) (.record []) := by
  refine .record ?_ ?_
  · intro name shape found
    simp at found
  · intro name shape value found
    simp at found

theorem Fits.record_cons {entries : Entries} {fields : Scope} {name : String} {value : Value}
    {shape : Shape} (first : Fits value shape) (rest : Fits (.object entries) (.record fields)) :
    Fits (.object ((name, value) :: entries)) (.record ((name, shape) :: fields)) := by
  cases rest with
  | record present fits =>
    refine .record ?_ ?_
    · intro other expected found
      by_cases same : other = name
      · simp [Entries.get?, same]
      · have different : (other == name) = false := by simpa using same
        simp only [List.lookup_cons, different, Entries.get?] at found ⊢
        exact present other expected found
    · intro other expected held found given
      by_cases same : other = name
      · simp only [List.lookup_cons, same, BEq.rfl, Option.some.injEq, Entries.get?] at found given
        exact found ▸ given ▸ first
      · have different : (other == name) = false := by simpa using same
        simp only [List.lookup_cons, different, Entries.get?] at found given
        exact fits other expected held found given

theorem Fits.get {entries : Entries} {fields : Scope} {name : String} {shape : Shape}
    (fits : Fits (.object entries) (.record fields)) (found : fields.lookup name = some shape) :
    ∃ value, entries.get? name = some value ∧ Fits value shape := by
  cases fits with
  | record present held =>
    obtain ⟨value, given⟩ := Option.isSome_iff_exists.mp (present name shape found)
    exact ⟨value, given, held name shape value found given⟩

def Reference.shape? (scope : Scope) : Reference → Option Shape
  | .variable name => scope.lookup name
  | .member name field =>
    match scope.lookup name with
    | some (.record fields) => fields.lookup field
    | _ => none

def Width.checks (scope : Scope) : Width → Bool
  | .once reference | .twice reference =>
    match reference.shape? scope with
    | some .count => true
    | _ => false

def Form.checks (scope : Scope) (reference : Reference) : Form → Bool
  | .plain | .comment | .literal => (reference.shape? scope).isSome
  | .joined _ =>
    match reference.shape? scope with
    | some (.list _) => true
    | _ => false
  | .indented width =>
    width.checks scope &&
      match reference.shape? scope with
      | some .text | some (.list .text) => true
      | _ => false

mutual

def Part.checks (scope : Scope) : Part → Bool
  | .text _ => true
  | .write reference form => form.checks scope reference
  | .choose condition body otherwise =>
    (condition.shape? scope).isSome && checksAll scope body && checksAll scope otherwise
  | .each name source body =>
    match source.shape? scope with
    | some (.list item) => checksAll ((name, item) :: scope) body
    | _ => false

def checksAll (scope : Scope) : List Part → Bool
  | [] => true
  | part :: rest => part.checks scope && checksAll scope rest

end

variable {context : Entries} {scope : Scope}

theorem Reference.value_fits {reference : Reference} {shape : Shape}
    (fits : Fits (.object context) (.record scope)) (found : reference.shape? scope = some shape) :
    ∃ value, reference.value context = .ok value ∧ Fits value shape := by
  cases reference with
  | «variable» name =>
    obtain ⟨value, given, held⟩ := fits.get found
    exact ⟨value, by simp [Reference.value, given], held⟩
  | member name field =>
    simp only [Reference.shape?] at found
    split at found
    · next fields owned =>
      obtain ⟨owner, given, held⟩ := fits.get owned
      cases held with
      | @record entries _ present inner =>
        obtain ⟨value, member, memberFits⟩ := (Fits.record present inner).get found
        exact ⟨value, by simp [Reference.value, given, member], memberFits⟩
    · simp at found

theorem countOf_int {number : Int} {count : Nat} (counted : blankCount number = .ok count) :
    countOf (.int number) = .ok count := by
  simp [countOf, counted]

theorem Width.value_ok {width : Width} (fits : Fits (.object context) (.record scope))
    (checked : width.checks scope) :
    ∃ value count, width.value context = .ok (.ok value) ∧ countOf value = .ok count := by
  cases width with
  | once reference =>
    simp only [Width.checks] at checked
    split at checked
    · next found =>
      obtain ⟨value, given, held⟩ := Reference.value_fits fits found
      cases held with
      | @count number once twice single double =>
        exact ⟨.int number, once, by simp [Width.value, given], countOf_int single⟩
    · simp at checked
  | twice reference =>
    simp only [Width.checks] at checked
    split at checked
    · next found =>
      obtain ⟨value, given, held⟩ := Reference.value_fits fits found
      cases held with
      | @count number once twice single double =>
        refine ⟨.int (number * 2), twice, ?_, countOf_int double⟩
        simp [Width.value, given, doubled, bind, Except.bind, Except.map]
    · simp at checked

theorem mapM_lineOf {items : List Value} (texts : ∀ item ∈ items, Fits item .text) :
    ∃ lines, items.mapM lineOf = .ok lines := by
  refine Outcome.mapM_ok fun item member => ?_
  cases texts item member with
  | text line => exact ⟨line, rfl⟩

theorem writeIndented_ok {width value : Value} {count : Nat} (counted : countOf width = .ok count)
    (fits : Fits value .text ∨ Fits value (.list .text)) :
    ∃ text, writeIndented (.ok width) value = .ok text := by
  have textLines : ∀ content,
      ∃ lines, ((Text.splitAtChar '\n' content).map Value.text).mapM lineOf = .ok lines := by
    intro content
    refine mapM_lineOf fun item member => ?_
    obtain ⟨line, _, rfl⟩ := List.mem_map.mp member
    exact .text line
  rcases fits with fits | fits
  · cases fits with
    | text content =>
      obtain ⟨lines, written⟩ := textLines content
      exact ⟨_, by simp [writeIndented, counted, written, bind, Except.bind]; rfl⟩
  · cases fits with
    | @list items _ texts =>
      obtain ⟨lines, written⟩ := mapM_lineOf texts
      exact ⟨_, by
        simp [writeIndented, membersOf, Value.members?, counted, written, bind, Except.bind]
        rfl⟩

theorem Form.write_ok {form : Form} {reference : Reference}
    (fits : Fits (.object context) (.record scope)) (checked : form.checks scope reference) :
    ∃ text, form.write context reference = .ok text := by
  cases form with
  | plain | comment | literal =>
    obtain ⟨shape, found⟩ := Option.isSome_iff_exists.mp checked
    obtain ⟨value, given, _⟩ := Reference.value_fits fits found
    exact ⟨_, by simp [Form.write, given, Except.map]; rfl⟩
  | joined separator =>
    simp only [Form.checks] at checked
    split at checked
    · next item found =>
      obtain ⟨value, given, held⟩ := Reference.value_fits fits found
      cases held with
      | @list items _ _ =>
        exact ⟨_, by simp [Form.write, given, membersOf, Value.members?, bind, Except.bind]; rfl⟩
    · simp at checked
  | indented width =>
    obtain ⟨wide, shaped⟩ := Bool.and_eq_true_iff.mp checked
    obtain ⟨number, count, held, counted⟩ := Width.value_ok fits wide
    have written : ∃ value, reference.value context = .ok value ∧
        (Fits value .text ∨ Fits value (.list .text)) := by
      split at shaped
      · next found =>
        obtain ⟨value, given, text⟩ := Reference.value_fits fits found
        exact ⟨value, given, Or.inl text⟩
      · next found =>
        obtain ⟨value, given, texts⟩ := Reference.value_fits fits found
        exact ⟨value, given, Or.inr texts⟩
      · simp at shaped
    obtain ⟨value, given, shape⟩ := written
    obtain ⟨text, done⟩ := writeIndented_ok counted shape
    exact ⟨text, by simp [Form.write, held, given, done, bind, Except.bind]⟩

theorem Fits.bind {name : String} {member : Value} {item : Shape}
    (fits : Fits (.object context) (.record scope)) (held : Fits member item) :
    Fits (.object ((name, member) :: context)) (.record ((name, item) :: scope)) :=
  .record_cons held fits

mutual

theorem Part.render_ok {context : Entries} {scope : Scope}
    (fits : Fits (.object context) (.record scope)) :
    ∀ part : Part, part.checks scope → ∃ text, part.render context = .ok text
  | .text content, _ => ⟨content, by simp [Part.render]⟩
  | .write reference form, checked => by
    simp only [Part.checks] at checked
    obtain ⟨text, written⟩ := Form.write_ok fits checked
    exact ⟨text, by simp [Part.render, written]⟩
  | .choose condition body otherwise, checked => by
    simp only [Part.checks, Bool.and_eq_true] at checked
    obtain ⟨⟨known, bodyChecked⟩, otherwiseChecked⟩ := checked
    obtain ⟨shape, found⟩ := Option.isSome_iff_exists.mp known
    obtain ⟨value, given, _⟩ := Reference.value_fits fits found
    obtain ⟨text, written⟩ := renderAll_ok fits body bodyChecked
    obtain ⟨other, rewritten⟩ := renderAll_ok fits otherwise otherwiseChecked
    by_cases truthy : value.isTruthy
    · exact ⟨text, by simp [Part.render, given, truthy, written, bind, Except.bind]⟩
    · exact ⟨other, by simp [Part.render, given, truthy, rewritten, bind, Except.bind]⟩
  | .each name source body, checked => by
    simp only [Part.checks] at checked
    split at checked
    · next item found =>
      obtain ⟨value, given, held⟩ := Reference.value_fits fits found
      cases held with
      | @list items _ members =>
        have bodies : ∀ member ∈ items,
            ∃ text, renderAll ((name, member) :: context) body = .ok text :=
          fun member inside => renderAll_ok (fits.bind (members member inside)) body checked
        obtain ⟨texts, written⟩ := Outcome.mapM_ok bodies
        refine ⟨Text.joinWith "" texts, ?_⟩
        simp [Part.render, given, membersOf, Value.members?, written, bind, Except.bind]
    · simp at checked

/-- Checked parts are written in every context that fits their scope. -/
theorem renderAll_ok {context : Entries} {scope : Scope}
    (fits : Fits (.object context) (.record scope)) :
    ∀ parts : List Part, checksAll scope parts → ∃ text, renderAll context parts = .ok text
  | [], _ => ⟨"", by simp [renderAll]⟩
  | part :: rest, checked => by
    simp only [checksAll, Bool.and_eq_true] at checked
    obtain ⟨first, written⟩ := Part.render_ok fits part checked.1
    obtain ⟨later, further⟩ := renderAll_ok fits rest checked.2
    exact ⟨first ++ later, by simp [renderAll, written, further, bind, Except.bind]⟩

end

/-! What is written was reached: a list of parts that is written holds no part that cannot be, and
what comes of it holds what comes of each part. -/

theorem render_of_renderAll {part : Part} {parts : List Part} {text : String}
    (written : renderAll context parts = .ok text) (member : part ∈ parts) :
    ∃ own, part.render context = .ok own ∧ own.toList <:+: text.toList := by
  induction parts generalizing text with
  | nil => simp at member
  | cons head rest ih =>
    rw [renderAll] at written
    obtain ⟨first, here, afterFirst⟩ := Outcome.bind_eq_ok_iff.mp written
    obtain ⟨later, there, joined⟩ := Outcome.bind_eq_ok_iff.mp afterFirst
    cases joined
    rw [String.toList_append]
    rcases List.mem_cons.mp member with same | inside
    · exact ⟨first, same ▸ here, (List.prefix_append _ _).isInfix⟩
    · obtain ⟨own, rendered, within⟩ := ih there inside
      exact ⟨own, rendered, within.trans (List.suffix_append _ _).isInfix⟩

theorem renderAll_of_each {name : String} {source : Reference} {body : List Part} {text : String}
    {items : List Value} {member : Value}
    (written : (Part.each name source body).render context = .ok text)
    (given : source.value context = .ok (.list items)) (inside : member ∈ items) :
    ∃ own, renderAll ((name, member) :: context) body = .ok own ∧ own.toList <:+: text.toList := by
  rw [Part.render, given] at written
  obtain ⟨value, same, afterValue⟩ := Outcome.bind_eq_ok_iff.mp written
  cases same
  obtain ⟨members, listed, afterMembers⟩ := Outcome.bind_eq_ok_iff.mp afterValue
  cases listed
  obtain ⟨texts, bodies, joined⟩ := Outcome.bind_eq_ok_iff.mp afterMembers
  cases joined
  obtain ⟨own, rendered, listed⟩ := Outcome.exists_of_mapM_ok bodies member inside
  exact ⟨own, rendered, Text.infix_joinWith "" listed⟩

theorem renderAll_of_choose {condition : Reference} {body otherwise : List Part} {text : String}
    {value : Value} (written : (Part.choose condition body otherwise).render context = .ok text)
    (given : condition.value context = .ok value) (truthy : value.isTruthy) :
    renderAll context body = .ok text := by
  rw [Part.render, given] at written
  obtain ⟨chosen, same, afterValue⟩ := Outcome.bind_eq_ok_iff.mp written
  cases same
  rwa [if_pos truthy] at afterValue

theorem countOf_of_writeIndented {width : Except RenderError Value} {value : Value}
    {text : String} (written : writeIndented width value = .ok text) :
    ∃ number count, width = .ok number ∧ countOf number = .ok count := by
  unfold writeIndented at written
  dsimp only at written
  split at written
  all_goals
    obtain ⟨lines, _, afterLines⟩ := Outcome.bind_eq_ok_iff.mp written
    obtain ⟨count, counted, _⟩ := Outcome.bind_eq_ok_iff.mp afterLines
    obtain ⟨number, held, counts⟩ := Outcome.bind_eq_ok_iff.mp counted
    exact ⟨number, count, held, counts⟩

theorem blankCount_of_twice {reference number : Reference} {size : Int} {text : String}
    (written : (Part.write reference (.indented (.twice number))).render context = .ok text)
    (given : number.value context = .ok (.int size)) :
    ∃ count, blankCount (size * 2) = .ok count := by
  rw [Part.render, Form.write, Width.value, given] at written
  obtain ⟨width, doubledSize, afterWidth⟩ := Outcome.bind_eq_ok_iff.mp written
  cases doubledSize
  obtain ⟨value, _, indented⟩ := Outcome.bind_eq_ok_iff.mp afterWidth
  obtain ⟨number, count, same, counts⟩ := countOf_of_writeIndented indented
  cases same
  exact ⟨count, Outcome.mapError_eq_ok_iff.mp counts⟩

end SqlScaffold.Template
