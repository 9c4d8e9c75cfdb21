import Columnar.Text.Case
import Columnar.Text.Quoted

/-! Paths of files, and folders with everything below them. In a path empty parts and parts that
name the same folder are dropped; a step upwards is kept, since what it means depends on the
folders. -/
namespace Columnar.Source

/-- Where a path starts: at the current folder, or at the root. Two slashes name a root that a
system may take for another one, so they stay two; more than two mean one. -/
inductive Start
  | here
  | root
  | doubleRoot
  deriving DecidableEq, Repr

def Start.ofSlashes : Nat → Start
  | 0 => .here
  | 2 => .doubleRoot
  | _ => .root

def Start.text : Start → String
  | .here => ""
  | .root => "/"
  | .doubleRoot => "//"

structure Path where
  start : Start
  parts : List String
  deriving DecidableEq, Repr

namespace Path

def ofString (s : String) : Path :=
  ⟨.ofSlashes (s.toList.takeWhile (· == '/')).length,
    ((s.toList.splitOn '/').map String.ofList).filter fun p => p ≠ "" ∧ p ≠ "."⟩

def absolute (p : Path) : Bool := p.start ≠ .here

def text (p : Path) : String :=
  if p.start = .here ∧ p.parts = [] then "."
  else p.start.text ++ String.intercalate "/" p.parts

def name (p : Path) : String := p.parts.getLast?.getD ""

def suffixChars (name : List Char) : List Char :=
  let behind := (name.reverse.takeWhile (· != '.')).reverse
  let before := name.length - behind.length
  if name.contains '.' ∧ 1 < before ∧ behind ≠ [] then '.' :: behind else []

def suffix (p : Path) : String := Text.lower (String.ofList (suffixChars p.name.toList))

/-- Takes steps upwards; `kept` are the parts so far, the last first. There is no step above all. -/
def collapse (kept : List String) : List String → List String
  | [] => kept.reverse
  | part :: parts => collapse (if part = ".." then kept.drop 1 else part :: kept) parts

def resolve (place p : Path) : Path :=
  if p.absolute then ⟨.root, collapse [] p.parts⟩
  else ⟨place.start, collapse place.parts.reverse p.parts⟩

end Path

/-- A locked file is there and cannot be opened. -/
inductive Node
  | folder
  | file (data : List UInt8)
  | locked
  deriving DecidableEq, Repr

/-- A path that is not followed, since it or a name in it is longer than file systems allow. -/
structure TooLong where
  path : Path
  deriving DecidableEq, Repr

def TooLong.message (e : TooLong) : String :=
  "[Errno 36] File name too long: " ++ Text.literal e.path.text

def longestName : Nat := 255
def longestPath : Nat := 4095

/-- Each file or folder stands under the names that lead to it. -/
structure Folder where
  nodes : List (List String × Node)

namespace Folder

def ofList (nodes : List (String × Node)) : Folder :=
  ⟨nodes.map fun (name, node) => ((Path.ofString name).parts, node)⟩

/-- The node under exactly these names. A folder need not be listed if something is below it. -/
def lookup (f : Folder) (names : List String) : Option Node :=
  if names.isEmpty then some .folder
  else match f.nodes.lookup names with
    | some node => some node
    | none => if f.nodes.any fun n => names.isPrefixOf n.1 then some .folder else none

/-- Walks along the parts of a path; `none` at a name that is too long. Of what is above this folder
no more is known than that it is a folder. -/
def walk (f : Folder) (here : List String) : List String → Option (Option Node)
  | [] => some (f.lookup here)
  | part :: parts =>
    match f.lookup here with
    | some .folder =>
      if longestName < part.utf8ByteSize then none
      else if part = ".." then
        if here.isEmpty then some (if parts.all (· = "..") then some .folder else none)
        else walk f here.dropLast parts
      else walk f (here ++ [part]) parts
    | _ => some none

/-- The node at a path, if there is one. Of absolute paths only the root is known to be there. -/
def find (f : Folder) (p : Path) : Except TooLong (Option Node) :=
  let top : Folder := if p.absolute then ⟨[]⟩ else f
  match if longestPath < p.text.utf8ByteSize then none else top.walk [] p.parts with
  | none => .error ⟨p⟩
  | some node => .ok node

def nodeAt (f : Folder) (place p : Path) : Option Node :=
  if p.absolute = place.absolute ∧ place.parts.isPrefixOf p.parts then
    f.lookup (p.parts.drop place.parts.length)
  else none

end Folder
end Columnar.Source
