import Columnar.Text.Characters

/-! References to variables in the values of assignments: a dollar sign and a name in braces,
perhaps with a text behind `:-` that stands in where the name means nothing. A name means what was
last assigned to it further up, and else what it means outside. -/
namespace Columnar.Settings

structure Reference where
  name : List Char
  standIn : List Char
  length : Nat

def endsName (c : Char) : Bool := c == '}' || c == ':'

/-- The reference behind a dollar sign; its length does not count the dollar sign. -/
def reference? : List Char → Option Reference
  | '{' :: cs =>
    let name := cs.takeWhile (!endsName ·)
    match cs.dropWhile (!endsName ·) with
    | '}' :: _ => some ⟨name, [], name.length + 2⟩
    | ':' :: '-' :: cs =>
      let standIn := cs.takeWhile (· != '}')
      if standIn.length < cs.length then some ⟨name, standIn, name.length + standIn.length + 4⟩
      else none
    | _ => none
  | _ => none

/-- A text with its references resolved, behind as many characters as are to be passed over. -/
def substitute (meaning : String → Option String) : Nat → List Char → List Char
  | _, [] => []
  | skip + 1, _ :: cs => substitute meaning skip cs
  | 0, c :: cs =>
    match if c = '$' then reference? cs else none with
    | some r =>
      ((meaning (String.ofList r.name)).map String.toList).getD r.standIn ++
        substitute meaning r.length cs
    | none => c :: substitute meaning 0 cs

def meaning (outside assigned : List (String × Option String)) (name : String) : Option String :=
  (assigned.reverse.lookup name <|> outside.lookup name).map (·.getD "")

def resolveFrom (outside assigned : List (String × Option String)) :
    List (String × Option String) → List (String × Option String)
  | [] => assigned
  | (name, value) :: rest =>
    let value := value.map fun s =>
      String.ofList (substitute (meaning outside assigned) 0 s.toList)
    resolveFrom outside (assigned ++ [(name, value)]) rest

def resolve (outside : List (String × String)) (assigned : List (String × Option String)) :
    List (String × Option String) :=
  resolveFrom (outside.map fun v => (v.1, some v.2)) [] assigned

/-! Files of assignments, `NAME=value` a line. A line may start with `export`; a value may be
quoted, and then may run over lines; a comment starts with a number sign behind white space. A line
that is none of this is passed over. -/

open Text

/-- A name, and its value if an equals sign follows; a line with a comment alone has no name. -/
structure Assignment where
  name : Option String
  value : Option String
  deriving DecidableEq, Repr

abbrev Scan (α : Type) := Option (α × List Char)

def skipInline (cs : List Char) : List Char := cs.dropWhile isInlineSpace

def skipExport (cs : List Char) : List Char :=
  let word := "export".toList
  if word.isPrefixOf cs then
    let rest := cs.drop word.length
    if (rest.head?.map isInlineSpace).getD false then skipInline rest else cs
  else cs

/-- A quoted text behind its opening quote. A backslash takes the next character along. -/
def quotedText (mark : Char) : List Char → Scan (List Char)
  | [] => none
  | [c] => if c = mark then some ([], []) else none
  | c :: d :: rest =>
    if c = mark then some ([], d :: rest)
    else if c = '\\' then
      (quotedText mark rest).map fun (text, rest) => (c :: d :: text, rest)
    else (quotedText mark (d :: rest)).map fun (text, rest) => (c :: text, rest)

def escape? (mark : Char) : Char → Option Char
  | '\\' => some '\\'
  | '\'' => some '\''
  | c =>
    if mark ≠ '"' then none
    else match c with
      | '"' => some '"'
      | 'a' => some '\x07'
      | 'b' => some '\x08'
      | 'f' => some '\x0c'
      | 'n' => some '\n'
      | 'r' => some '\r'
      | 't' => some '\t'
      | 'v' => some '\x0b'
      | _ => none

def unescape (mark : Char) : List Char → List Char
  | [] => []
  | [c] => [c]
  | c :: d :: rest =>
    if c = '\\' then
      match escape? mark d with
      | some e => e :: unescape mark rest
      | none => c :: unescape mark (d :: rest)
    else c :: unescape mark (d :: rest)

def beforeComment : List Char → List Char
  | [] => []
  | c :: cs =>
    if isSpace c ∧ (cs.dropWhile isSpace).head? = some '#' then [] else c :: beforeComment cs

def nameAt (cs : List Char) : Scan (Option String) :=
  match cs with
  | '#' :: _ => some (none, cs)
  | '\'' :: rest =>
    let name := rest.takeWhile (· != '\'')
    match rest.dropWhile (· != '\'') with
    | _ :: rest => if name.isEmpty then none else some (some (String.ofList name), rest)
    | [] => none
  | cs =>
    let isName := fun c => !(c == '=' || c == '#' || isSpace c)
    let name := cs.takeWhile isName
    if name.isEmpty then none else some (some (String.ofList name), cs.dropWhile isName)

/-- The value behind an equals sign. White space there may already stand in front of a comment. -/
def valueAt (cs : List Char) : Scan String :=
  let unquoted :=
    let line := cs.takeWhile (!isLineEnd ·)
    (String.ofList (dropEndSpace (skipInline (beforeComment line))), cs.dropWhile (!isLineEnd ·))
  match skipInline cs with
  | [] => some unquoted
  | c :: rest =>
    if c = '\'' ∨ c = '"' then
      (quotedText c rest).map fun (text, rest) => (String.ofList (unescape c text), rest)
    else some unquoted

def skipLineEnd : List Char → List Char
  | '\r' :: '\n' :: cs => cs
  | c :: cs => if isLineEnd c then cs else c :: cs
  | [] => []

def lineEnd (cs : List Char) : Option (List Char) :=
  let cs := skipInline cs
  let cs := match cs with
    | '#' :: _ => cs.dropWhile (!isLineEnd ·)
    | cs => cs
  match cs with
  | [] => some []
  | c :: _ => if isLineEnd c then some (skipLineEnd cs) else none

/-- One assignment and what follows it. Where a line is malformed, the rest of it is dropped. -/
def assignmentAt (cs : List Char) : Option Assignment × List Char :=
  let dropLine (rest : List Char) := (none, skipLineEnd (rest.dropWhile (!isLineEnd ·)))
  let cs := skipExport cs
  match nameAt cs with
  | none => dropLine cs
  | some (name, rest) =>
    let rest := skipInline rest
    match rest with
    | '=' :: rest => match valueAt rest with
      | none => dropLine rest
      | some (value, rest) => match lineEnd rest with
        | none => dropLine rest
        | some rest => (some ⟨name, some value⟩, rest)
    | rest => match lineEnd rest with
      | none => dropLine rest
      | some rest => (some ⟨name, none⟩, rest)

def assignmentsFrom : Nat → List Char → List Assignment
  | 0, _ => []
  | fuel + 1, cs =>
    let cs := cs.dropWhile isSpace
    if cs.isEmpty then []
    else
      let (a, rest) := assignmentAt cs
      a.toList ++ assignmentsFrom fuel rest

def withoutMark : List Char → List Char
  | '\uFEFF' :: cs => cs
  | cs => cs

/-- The assignments of a text, in order; every one takes at least one character. A byte order mark
in front is no part of the text. -/
def assignments (text : String) : List (String × Option String) :=
  let cs := unifyNewlines (withoutMark text.toList)
  (assignmentsFrom (cs.length + 1) cs).filterMap fun a => a.name.map fun n => (n, a.value)

end Columnar.Settings
