import SqlScaffold.Proofs.Files.Making
import SqlScaffold.Proofs.Text.Lines

/-!
Paths that are joined from segments. As long as no segment starts at a root, the path goes on below
where it began; from a segment that does, it begins anew.
-/

namespace SqlScaffold

namespace Files.Path

open Text

def startsAtRoot (segment : String) : Bool := segment.toList.head? == some '/'

theorem anchor_ofText_iff (segment : String) :
    (ofText segment).anchor = .current ↔ startsAtRoot segment = false := by
  unfold ofText anchorOf startsAtRoot
  cases segment.toList with
  | nil => simp
  | cons c rest =>
    by_cases slash : c = '/'
    · simp only [slash, List.takeWhile_cons, decide_true, if_true, List.length_cons]
      split
      · omega
      · simp
      · simp
    · simp [slash]

theorem mem_parts_ofText {segment part : String} :
    part ∈ (ofText segment).parts ↔ part ∈ splitAtChar '/' segment ∧ isPart part := by
  simp [ofText]

theorem joinAll_cons (base : Path) (segment : String) (rest : List String) :
    base.joinAll (segment :: rest) = (base.join (ofText segment)).joinAll rest := rfl

theorem joinAll_of_relative (base : Path) {segments : List String}
    (relative : ∀ segment ∈ segments, startsAtRoot segment = false) :
    base.joinAll segments = base.below (segments.flatMap fun segment => (ofText segment).parts) := by
  induction segments generalizing base with
  | nil => simp [joinAll]
  | cons segment rest ih =>
    have current := (anchor_ofText_iff segment).mpr (relative segment List.mem_cons_self)
    have step : base.join (ofText segment) = base.below (ofText segment).parts := by
      simp [join, current, below]
    rw [joinAll_cons, step, ih _ fun other member => relative other (List.mem_cons_of_mem _ member),
      List.flatMap_cons, below_append]

theorem joinAll_of_root (base : Path) (earlier : List String) {segment : String}
    (root : startsAtRoot segment) (later : List String) :
    base.joinAll (earlier ++ segment :: later) = (ofText segment).joinAll later := by
  induction earlier generalizing base with
  | nil =>
    have other : (ofText segment).anchor ≠ .current := by
      simp [anchor_ofText_iff, root]
    rw [List.nil_append, joinAll_cons, join, if_neg other]
  | cons first rest ih => exact ih _

theorem relative_or_root (segments : List String) :
    (∀ segment ∈ segments, startsAtRoot segment = false) ∨
      ∃ earlier segment later, segments = earlier ++ segment :: later ∧ startsAtRoot segment ∧
        ∀ other ∈ later, startsAtRoot other = false := by
  induction segments with
  | nil => simp
  | cons first rest ih =>
    rcases ih with relative | ⟨earlier, segment, later, rfl, root, others⟩
    · by_cases root : startsAtRoot first
      · exact Or.inr ⟨[], first, rest, rfl, root, relative⟩
      · exact Or.inl (List.forall_mem_cons.mpr ⟨by simpa using root, relative⟩)
    · exact Or.inr ⟨first :: earlier, segment, later, rfl, root, others⟩

def IsBelow (path base : Path) : Prop :=
  path.anchor = base.anchor ∧ base.parts <+: path.parts ∧
    ".." ∉ path.parts.drop base.parts.length

instance (path base : Path) : Decidable (path.IsBelow base) := inferInstanceAs (Decidable (_ ∧ _))

theorem isBelow_below_iff {base : Path} {parts : List String} :
    (base.below parts).IsBelow base ↔ ".." ∉ parts := by
  simp [IsBelow, below]

end Files.Path

end SqlScaffold
