import SqlScaffold.Keyed
import SqlScaffold.Number.Floating
import SqlScaffold.Text.Quoted

/-!
Loosely typed values, as they come from documents and settings. An object keeps its entries in
order, and putting a value under a present key moves nothing.
-/

namespace SqlScaffold

open Number Text

inductive Value where
  | null
  | bool (value : Bool)
  | int (value : Int)
  | float (value : Floating)
  | text (value : String)
  | list (items : List Value)
  | object (entries : List (String × Value))
  deriving Inhabited

abbrev Entries := List (String × Value)

namespace Entries

def get? (entries : Entries) (key : String) : Option Value := entries.lookup key

def put (key : String) (value : Value) (entries : Entries) : Entries := Keyed.put key value entries

def merge (base further : Entries) : Entries :=
  further.foldl (fun merged entry => merged.put entry.1 entry.2) base

theorem get?_put (key other : String) (value : Value) (entries : Entries) :
    (put key value entries).get? other = if other = key then some value else entries.get? other :=
  Keyed.lookup_put key other value entries

end Entries

namespace Value

/-- Empty values, zeros, `false` and `null` count as false. -/
def isTruthy : Value → Bool
  | null => false
  | bool value => value
  | int value => value != 0
  | float value => !value.isZero
  | text value => value != ""
  | list items => !items.isEmpty
  | object entries => !entries.isEmpty

def kind : Value → String
  | null => "NoneType"
  | bool _ => "bool"
  | int _ => "int"
  | float _ => "float"
  | text _ => "str"
  | list _ => "list"
  | object _ => "dict"

def floatNames : SpecialNames := ⟨"nan", "inf"⟩

mutual

/-- A value as a message quotes it. Assumed of the value: no number has more than `digitLimit` digits,
and lists and objects do not stand in each other so deep that no message can be written. -/
def quoted : Value → String
  | null => "None"
  | bool value => if value then "True" else "False"
  | int value => toString value
  | float value => value.text floatNames
  | text value => Text.quoted value
  | list items => "[" ++ joinWith ", " (quotedItems items) ++ "]"
  | object entries => "\x7b" ++ joinWith ", " (quotedEntries entries) ++ "\x7d"

def quotedItems : List Value → List String
  | [] => []
  | item :: rest => quoted item :: quotedItems rest

def quotedEntries : List (String × Value) → List String
  | [] => []
  | (key, value) :: rest => (Text.quoted key ++ ": " ++ quoted value) :: quotedEntries rest

end

def shown : Value → String
  | text value => value
  | value => value.quoted

def members? : Value → Option (List Value)
  | .list items => some items
  | .object entries => some (entries.map fun entry => .text entry.1)
  | .text content => some (content.toList.map fun c => .text c.toString)
  | _ => none

def asInt? : Value → Option Int
  | bool value => some (if value then 1 else 0)
  | int value => some value
  | _ => none

mutual

def same : Value → Value → Bool
  | null, null => true
  | float left, float right => left == right || (left.isZero && right.isZero)
  | float left, other =>
    match other.asInt? with
    | some whole => left.equalsInt whole
    | none => false
  | text left, text right => left == right
  | list left, list right => sameItems left right
  | object left, object right => left.length == right.length && sameEntries left right
  | left, right =>
    match left.asInt?, right with
    | some whole, float number => number.equalsInt whole
    | some whole, other => other.asInt? == some whole
    | none, _ => false

def sameItems : List Value → List Value → Bool
  | [], [] => true
  | left :: lefts, right :: rights => same left right && sameItems lefts rights
  | _, _ => false

def sameEntries : List (String × Value) → List (String × Value) → Bool
  | [], _ => true
  | (key, value) :: rest, entries =>
    (match entries.lookup key with
      | some other => same value other
      | none => false) && sameEntries rest entries

end

end Value

end SqlScaffold
