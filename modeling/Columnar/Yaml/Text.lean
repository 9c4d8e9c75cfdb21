import Columnar.Text
import Columnar.Yaml.Cursor

/-! The texts of scalars. A plain or quoted text can run over lines: a single break between its
lines is a blank, and of several the first is dropped. Each function takes the place where a text
starts and gives the text, in reverse while it is being built, and the place behind it. The number
of characters left bounds every loop. -/
namespace Columnar.Yaml
open Cursor

section
variable {text : List Char}

def foldBreaks (first : Char) (more : List Char) : List Char :=
  if first ≠ '\n' then first :: more else if more.isEmpty then [' '] else more

/-! Plain texts -/

def flowMarks : List Char := [',', '?', '[', ']', '{', '}']

def endsKey (flow : Bool) (after : Option Char) : Bool :=
  separates after || (flow && [',', '[', ']', '{', '}'].contains (after.getD ' '))

def plainRun (flow : Bool) : List Char → List Char
  | [] => []
  | c :: rest =>
    if separates (some c) || (flow && flowMarks.contains c) then []
    else if c = ':' ∧ endsKey flow rest.head? then []
    else c :: plainRun flow rest

/-- Blanks and further breaks behind the first break of a plain text; `none` at a document mark. -/
def plainBreaks : Nat → Cursor text → List Char → Option (List Char) × Cursor text
  | 0, c, _ => (none, c)
  | fuel + 1, c, breaks =>
    if c.peek? = some ' ' then plainBreaks fuel c.next breaks
    else match c.lineBreak? with
      | none => (some breaks.reverse, c)
      | some (b, c) => if c.atDocumentMark then (none, c) else plainBreaks fuel c (b :: breaks)

/-- What stands between two runs of a plain text: the characters, if it can go on, the place behind
them, and whether a line was ended. -/
def plainGap (c : Cursor text) : List Char × Cursor text × Bool :=
  let blanks := c.rest.takeWhile (· == ' ')
  let c := c.skipBlanks
  match c.lineBreak? with
  | none => (blanks, c, false)
  | some (b, c) =>
    if c.atDocumentMark then ([], c, true)
    else match plainBreaks (c.rest.length + 1) c [] with
      | (none, c) => ([], c, true)
      | (some more, c) => (foldBreaks b more, c, true)

def plainFrom (flow : Bool) (indent : Int) :
    Nat → Cursor text → List Char → List Char × Cursor text × Bool
  | 0, c, cs => (cs, c, false)
  | fuel + 1, c, cs =>
    let run := plainRun flow c.rest
    let cs := run.reverse ++ cs
    let (gap, c, ended) := plainGap (skip run.length c)
    if gap.isEmpty || c.peek? == some '#' || (!flow && decide ((c.column : Int) < indent)) ||
        (plainRun flow c.rest).isEmpty then
      (cs, c, ended)
    else plainFrom flow indent fuel c (gap.reverse ++ cs)

def plain (flow : Bool) (indent : Int) (c : Cursor text) : String × Cursor text × Bool :=
  let (cs, c, ended) := plainFrom flow indent (c.rest.length + 1) c []
  (String.ofList cs.reverse, c, ended)

/-! Quoted texts -/

def namedEscape? : Char → Option Char
  | '0' => some '\x00'
  | 'a' => some '\x07'
  | 'b' => some '\x08'
  | 't' => some '\t'
  | '\t' => some '\t'
  | 'n' => some '\n'
  | 'v' => some '\x0b'
  | 'f' => some '\x0c'
  | 'r' => some '\r'
  | 'e' => some '\x1b'
  | ' ' => some ' '
  | '"' => some '"'
  | '\\' => some '\\'
  | '/' => some '/'
  | 'N' => some '\x85'
  | '_' => some '\xa0'
  | 'L' => some '\u2028'
  | 'P' => some '\u2029'
  | _ => none

def escapeDigits? : Char → Option Nat
  | 'x' => some 2
  | 'u' => some 4
  | 'U' => some 8
  | _ => none

/-- What has a number; two halves of a pair are not joined. -/
def pointOf (n : Nat) : Except Unreadable Point :=
  if 0x80000000 ≤ n then .error .longCodePoint
  else if 0x110000 ≤ n then .error .codePoint
  else .ok (.ofCode n)

def number (digits : Nat) (c : Cursor text) : Except Halt Nat :=
  let ds := c.rest.take digits
  match Text.hexNat? ds with
  | some n => if ds.length = digits then .ok n else .error ⟨.malformed, true⟩
  | none => wrong

def numberedEscape (digits : Nat) (c : Cursor text) : Except Halt (Point × Cursor text) :=
  match number digits c with
  | .error h => .error h
  | .ok n => match pointOf n with
    | .ok p => .ok (p, skip digits c)
    | .error u => .error ⟨.unreadable u, false⟩

/-- Blank lines in a quoted text; a document mark may not start a line of it. -/
def quotedBreaks : Nat → Cursor text → List Char → Except Halt (List Char × Cursor text)
  | 0, _, _ => wrong
  | fuel + 1, c, breaks =>
    if c.atDocumentMark then wrong
    else
      let c := c.skipWhile fun ch => ch == ' ' || ch == '\t'
      match c.lineBreak? with
      | some (b, c) => quotedBreaks fuel c (b :: breaks)
      | none => .ok (breaks.reverse, c)

def escape (c : Cursor text) : Except Halt (List Point × Cursor text) :=
  match c.peek? with
  | none => c.halt
  | some ch => match namedEscape? ch, escapeDigits? ch, c.lineBreak? with
    | some e, _, _ => .ok ([.char e], c.next)
    | none, some digits, _ => (numberedEscape digits c.next).map fun (p, c) => ([p], c)
    | none, none, some (_, c) =>
      (quotedBreaks (c.rest.length + 1) c []).map fun (cs, c) => (cs.map .char, c)
    | none, none, none => wrong

def quotedGap (c : Cursor text) : Except Halt (List Char × Cursor text) :=
  let isGap := fun ch => ch == ' ' || ch == '\t'
  let blanks := c.rest.takeWhile isGap
  let c := c.skipWhile isGap
  match c.lineBreak? with
  | none => if c.rest.isEmpty then c.halt else .ok (blanks, c)
  | some (b, c) =>
    (quotedBreaks (c.rest.length + 1) c []).map fun (more, c) => (foldBreaks b more, c)

def quotedFrom (double : Bool) :
    Nat → Cursor text → List Point → Except Halt (List Point × Cursor text)
  | 0, _, _ => wrong
  | fuel + 1, c, ps =>
    match c.rest with
    | [] => c.halt
    | ch :: rest =>
      if ch = '\'' ∧ !double then
        if rest.head? = some '\'' then quotedFrom double fuel (skip 2 c) (.char '\'' :: ps)
        else .ok (ps, c.next)
      else if ch = '"' ∧ double then .ok (ps, c.next)
      else if ch = '\\' ∧ double then
        match escape c.next with
        | .ok (e, c) => quotedFrom double fuel c (e.reverse ++ ps)
        | .error h => .error h
      else if separates (some ch) then
        match quotedGap c with
        | .ok (gap, c) => quotedFrom double fuel c ((gap.map .char).reverse ++ ps)
        | .error h => .error h
      else quotedFrom double fuel c.next (.char ch :: ps)

def quoted (double : Bool) (c : Cursor text) : Except Halt (Text × Cursor text) :=
  (quotedFrom double (c.rest.length + 1) c.next []).map fun (ps, c) => (.ofPoints ps.reverse, c)

/-! Block texts -/

inductive Chomping
  | strip
  | clip
  | keep
  deriving DecidableEq

def chomping? : Option Char → Option Chomping
  | some '+' => some .keep
  | some '-' => some .strip
  | _ => none

def width? (o : Option Char) : Option Nat :=
  o.bind fun c => if c.isDigit then some (c.toNat - 48) else none

/-- The header of a block text: chomping and indentation in either order, then the end of the line,
perhaps behind a comment. -/
def blockHeader (c : Cursor text) : Option (Chomping × Option Nat × Cursor text) := do
  let (ch, w, c) := match chomping? c.peek?, width? c.peek? with
    | some ch, _ => match width? c.next.peek? with
      | some w => (ch, some w, skip 2 c)
      | none => (ch, none, c.next)
    | none, some w => match chomping? c.next.peek? with
      | some ch => (ch, some w, skip 2 c)
      | none => (.clip, some w, c.next)
    | none, none => (.clip, none, c)
  if w = some 0 then none
  else if !(c.peek? == some ' ' || c.atLineEnd) then none
  else
    let c := c.skipBlanks.skipComment
    if !c.atLineEnd then none
    else some (ch, w, match c.lineBreak? with
      | some (_, c) => c
      | none => c)

/-- Leading blank lines, and the deepest column that their blanks reach. -/
def blockLead : Nat → Cursor text → List Char → Nat → List Char × Nat × Cursor text
  | 0, c, breaks, deepest => (breaks.reverse, deepest, c)
  | fuel + 1, c, breaks, deepest =>
    if c.peek? = some ' ' then blockLead fuel c.next breaks (max deepest c.next.column)
    else match c.lineBreak? with
      | some (b, c) => blockLead fuel c (b :: breaks) deepest
      | none => (breaks.reverse, deepest, c)

def skipIndent (indent : Nat) (c : Cursor text) : Cursor text :=
  skip (min (indent - c.column) (c.rest.takeWhile (· == ' ')).length) c

def blockBreaks (indent : Nat) : Nat → Cursor text → List Char → List Char × Cursor text
  | 0, c, breaks => (breaks.reverse, c)
  | fuel + 1, c, breaks =>
    let c := skipIndent indent c
    match c.lineBreak? with
    | some (b, c) => blockBreaks indent fuel c (b :: breaks)
    | none => (breaks.reverse, c)

def isBlankLead (c : Cursor text) : Bool := c.peek? == some ' ' || c.peek? == some '\t'

/-- The lines of a block text, with the last break and the breaks behind it apart. -/
def blockLines (folded : Bool) (indent : Nat) :
    Nat → Cursor text → List Char → List Char → List Char × List Char × List Char × Cursor text
  | 0, c, breaks, cs => (cs, [], breaks, c)
  | fuel + 1, c, breaks, cs =>
    if c.column ≠ indent ∨ c.rest.isEmpty then (cs, [], breaks, c)
    else
      let indented := isBlankLead c
      let line := c.rest.takeWhile (!isBreak ·)
      let cs := line.reverse ++ (breaks.reverse ++ cs)
      let c := skip line.length c
      let (last, c) := match c.lineBreak? with
        | some (b, c) => ([b], c)
        | none => ([], c)
      let (breaks, c) := blockBreaks indent (c.rest.length + 1) c []
      if c.column = indent ∧ !c.rest.isEmpty then
        let joint := if folded && last == ['\n'] && !indented && !isBlankLead c then
          (if breaks.isEmpty then [' '] else []) else last
        blockLines folded indent fuel c breaks (joint ++ cs)
      else (cs, last, breaks, c)

def block (folded : Bool) (outer : Int) (c : Cursor text) : Except Halt (String × Cursor text) :=
  match blockHeader c.next with
  | none => wrong
  | some (chomping, width, c) =>
    let least := (max (outer + 1) 1).toNat
    let (breaks, indent, c) := match width with
      | some w =>
        let indent := least + w - 1
        let (breaks, c) := blockBreaks indent (c.rest.length + 1) c []
        (breaks, indent, c)
      | none =>
        let (breaks, deepest, c) := blockLead (c.rest.length + 1) c [] 0
        (breaks, max least deepest, c)
    let (cs, last, breaks, c) := blockLines folded indent (c.rest.length + 1) c breaks []
    let tail := match chomping with
      | .strip => []
      | .clip => last
      | .keep => last ++ breaks
    .ok (String.ofList (cs.reverse ++ tail), c)

end

end Columnar.Yaml
