import Columnar.Log.Logger
import Columnar.Outcome

namespace Columnar.Titles

def isStart (c : Char) : Bool :=
  ('a' ≤ c && c ≤ 'z') || ('A' ≤ c && c ≤ 'Z') || c == '_' || c == '$'

def isPart (c : Char) : Bool := isStart c || ('0' ≤ c && c ≤ '9')

def isIdentifierChars : List Char → Bool
  | [] => false
  | c :: cs => isStart c && cs.all isPart

def isIdentifier : Text → Bool
  | .whole s => isIdentifierChars s.toList
  | .broken _ _ _ => false

inductive Problem
  | notIdentifier (position : Nat) (title : Text)
  | repeated (position : Nat) (title : Text)
  deriving DecidableEq, Repr

def Problem.line : Problem → Text
  | .notIdentifier i title => s!"col. {i} name '" ++ title ++ "' is not a valid column name"
  | .repeated i title => s!"col. {i} name '" ++ title ++ "' is not unique"

def problemsAt (i : Nat) (seen : List Text) (title : Text) : List Problem :=
  (if isIdentifier title then [] else [.notIdentifier i title]) ++
    (if title ∈ seen then [.repeated i title] else [])

def problemsFrom (i : Nat) (seen : List Text) : List Text → List Problem
  | [] => []
  | title :: titles =>
    problemsAt i seen title ++ problemsFrom (i + 1) (seen ++ [title]) titles

def problems (titles : List Text) : List Problem := problemsFrom 0 [] titles

def lines (titles : List Text) : List Text := (problems titles).map Problem.line

def check (titles : List Text) : Option TableError :=
  match lines titles with
  | [] => none
  | ls => some (.ofTitles ls)

def records (titles : List Text) : List Log.Record :=
  match lines titles with
  | [] => []
  | ls => [⟨.debug, "column_titles_invalid", [("problem_count", .int ls.length)]⟩]

end Columnar.Titles
