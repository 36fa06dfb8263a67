import SqlScaffold.Text.Case

/-!
Names derived from the names of models and fields. A column name splits a field name only where a
capital follows a small letter, so a run of capitals stays together; a default table name splits
an entity name before every capital but the first. Generated schemas rest on both rules, and they
differ on purpose.
-/

namespace SqlScaffold.Naming

open Text

def isSmall (c : Char) : Bool := decide ('a' ≤ c) && decide (c ≤ 'z')

def isCapital (c : Char) : Bool := decide ('A' ≤ c) && decide (c ≤ 'Z')

def splitHumps : List Char → List Char
  | [] => []
  | c :: rest =>
    match rest with
    | [] => [c]
    | next :: _ =>
      if isSmall c && isCapital next then c :: '_' :: splitHumps rest else c :: splitHumps rest

def columnName (field : String) : String :=
  String.ofList (lowerAfter [] (splitHumps field.toList))

def splitCapitals (chars : List Char) : List Char :=
  chars.flatMap fun c => if isUpper c then '_' :: lowerAfter [] [c] else [c]

def defaultTableName (entity : String) : String :=
  match entity.toList with
  | [] => ""
  | c :: rest => String.ofList (lowerAfter [] [c] ++ splitCapitals rest)

def instanceName (entity : String) : String :=
  match entity.toList with
  | [] => ""
  | c :: rest => String.ofList (lowerAfter [] [c] ++ rest)

def accessorName (field : String) : String :=
  match field.toList with
  | [] => ""
  | c :: rest => String.ofList (upperChar c ++ rest)

inductive NameError where
  | empty
  deriving DecidableEq, Repr

def NameError.message : NameError → String
  | empty => "string index out of range"

def withFirst (rule : String → String) (name : String) : Except NameError String :=
  if name = "" then .error .empty else .ok (rule name)

end SqlScaffold.Naming
