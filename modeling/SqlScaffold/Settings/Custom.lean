import SqlScaffold.Json.Writer
import SqlScaffold.Settings.Check

/-!
Custom settings beside the known ones. A draft may hold any value for them; what is no object has
to be a list of pairs, or a text of none, to be laid out as entries.
-/

namespace SqlScaffold

inductive PairError where
  | notIterable (kind : String)
  | notSequence (index : Nat)
  | notPair (index length : Nat)
  | notKey (kind : String)
  deriving DecidableEq, Repr

def PairError.message : PairError → String
  | notIterable kind => "'" ++ kind ++ "' object is not iterable"
  | notSequence index =>
    "cannot convert dictionary update sequence element #" ++ toString index ++ " to a sequence"
  | notPair index length =>
    "dictionary update sequence element #" ++ toString index ++ " has length " ++
      toString length ++ "; 2 is required"
  | notKey kind => "unhashable type: '" ++ kind ++ "'"

abbrev LooseEntries := List (Value × Value)

def isKey : Value → Bool
  | .list _ | .object _ => false
  | _ => true

def pairsFrom (index : Nat) : List Value → Except PairError LooseEntries
  | [] => .ok []
  | item :: rest =>
    match item.members? with
    | none => .error (.notSequence index)
    | some [key, value] =>
      if isKey key then (pairsFrom (index + 1) rest).map ((key, value) :: ·)
      else .error (.notKey key.kind)
    | some members => .error (.notPair index members.length)

def Value.pairs (value : Value) : Except PairError LooseEntries :=
  match value with
  | .object entries => .ok (entries.map fun entry => (.text entry.1, entry.2))
  | other =>
    match other.members? with
    | none => .error (.notIterable other.kind)
    | some members => pairsFrom 0 members

def putLoosely (key value : Value) : LooseEntries → LooseEntries
  | [] => [(key, value)]
  | entry :: rest =>
    if entry.1.same key then (entry.1, value) :: rest else entry :: putLoosely key value rest

def keyText (key : Value) : String :=
  match key with
  | .text content => content
  | other => Json.document other

def Draft.layout (draft : Draft) : Except PairError Entries := do
  let pairs ← draft.custom.pairs
  let known := draft.entries.filter fun entry => entry.1 != Setting.custom.key
  let laid := pairs.foldl (fun laid pair => putLoosely pair.1 pair.2 laid)
    (known.map fun entry => (.text entry.1, entry.2))
  .ok (laid.map fun entry => (keyText entry.1, entry.2))

/-- Laying out the custom entries of an object is merging them over the known ones. -/
theorem foldl_putLoosely (base further : Entries) :
    (further.map fun entry => (Value.text entry.1, entry.2)).foldl
        (fun laid pair => putLoosely pair.1 pair.2 laid)
        (base.map fun entry => (Value.text entry.1, entry.2)) =
      (base.merge further).map fun entry => (Value.text entry.1, entry.2) := by
  have put (key : String) (value : Value) (entries : Entries) :
      putLoosely (.text key) value (entries.map fun entry => (Value.text entry.1, entry.2)) =
        (entries.put key value).map fun entry => (Value.text entry.1, entry.2) := by
    induction entries with
    | nil => rfl
    | cons entry rest ih =>
      by_cases same : entry.1 = key
      · simp [putLoosely, Entries.put, Keyed.put, Value.same, same]
      · simp [putLoosely, Entries.put, Keyed.put, Value.same, same, ih]
  induction further generalizing base with
  | nil => rfl
  | cons entry rest ih =>
    simp only [List.map_cons, List.foldl_cons, put, ih]
    rfl

end SqlScaffold
