import SqlScaffold.Text.Lines

/-!
Names that end up verbatim in generated Java sources. A name is reported if it does not have the
form of an identifier or is a reserved word; nothing is refused. One line feed at the end of a
name escapes the check of its form.
-/

namespace SqlScaffold.Source

open Text

def reservedWords : List String :=
  ["abstract", "assert", "boolean", "break", "byte", "case", "catch", "char", "class", "const",
    "continue", "default", "do", "double", "else", "enum", "extends", "final", "finally", "float",
    "for", "goto", "if", "implements", "import", "instanceof", "int", "interface", "long",
    "native", "new", "package", "private", "protected", "public", "return", "short", "static",
    "strictfp", "super", "switch", "synchronized", "this", "throw", "throws", "transient", "try",
    "void", "volatile", "while", "true", "false", "null"]

def isWordStart (c : Char) : Bool := c.isAlpha || c == '_' || c == '$'

def isWordPart (c : Char) : Bool := c.isAlphanum || c == '_' || c == '$'

def isWord : List Char → Bool
  | [] => false
  | c :: rest => isWordStart c && rest.all isWordPart

def dropFinalNewline (chars : List Char) : List Char :=
  if chars.getLast? = some '\n' then chars.dropLast else chars

inductive NameProblem where
  | malformed (name : String)
  | reserved (name : String)
  deriving DecidableEq, Repr

def NameProblem.message : NameProblem → String
  | malformed name => "'" ++ name ++ "' is not a valid Java identifier"
  | reserved name => "'" ++ name ++ "' is a Java reserved word"

def nameProblems (name : String) : List NameProblem :=
  (if isWord (dropFinalNewline name.toList) then [] else [.malformed name]) ++
    (if reservedWords.contains name then [.reserved name] else [])

def packageProblems (package : String) : List NameProblem :=
  if package = "" then [] else (splitAtChar '.' package).flatMap nameProblems

end SqlScaffold.Source
