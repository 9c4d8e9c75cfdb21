import Columnar.Yaml.Tag
import Columnar.Yaml.Text

/-! From text to tokens. A key that is not announced by a question mark is only recognised at its
colon, so the place where a key may have started is kept, one for each depth of flow collections,
and the key token goes back there. Such a key must end on its line, within 1024 characters. A text
is looked at only as far as tokens are asked for, so a fault further on may never be met. -/
namespace Columnar.Yaml

/-- A text as far as it is handed on, and what is met behind it; `none` where it has its end. -/
structure Feed where
  text : List Char
  stop : Option Fault

structure Stream where
  tokens : List Token
  stop : Option Fault

/-- Where a key may have started. One that stands at the indentation of a block must be a key. -/
structure KeyStart where
  token : Nat
  required : Bool
  index : Nat
  line : Nat
  column : Nat

structure Lexer (text : List Char) where
  cursor : Cursor text
  flow : Nat
  indent : Int
  outer : List Int
  keyAllowed : Bool
  keys : List (Nat × KeyStart)
  tokens : Array Token

namespace Lexer
variable {text : List Char}

def start (text : List Char) : Lexer text :=
  let c := Cursor.start text
  ⟨if text.head? = some '\uFEFF' then c.next else c, 0, -1, [], true, [], #[]⟩

def push (l : Lexer text) (t : Token) : Lexer text := { l with tokens := l.tokens.push t }

def dropKey (l : Lexer text) : Except Halt (Lexer text) :=
  match l.keys.lookup l.flow with
  | some k =>
    if k.required then wrong else .ok { l with keys := l.keys.filter (·.1 != l.flow) }
  | none => .ok l

def saveKey (l : Lexer text) : Except Halt (Lexer text) :=
  if l.keyAllowed then do
    let l ← l.dropKey
    let c := l.cursor
    let required := l.flow == 0 && l.indent == c.column
    .ok { l with keys := (l.flow, ⟨l.tokens.size, required, c.index, c.line, c.column⟩) :: l.keys }
  else .ok l

/-- Drops the key starts that are on another line or too far back. -/
def dropStale (l : Lexer text) : Except Halt (Lexer text) :=
  let isStale (k : KeyStart) := k.line != l.cursor.line || 1024 < l.cursor.index - k.index
  if l.keys.any fun k => isStale k.2 && k.2.required then wrong
  else .ok { l with keys := l.keys.filter fun k => !isStale k.2 }

def unwindIndents (column : Int) : Int → List Int → Nat × Int × List Int
  | indent, outer :: rest =>
    if column < indent then
      let (n, left) := unwindIndents column outer rest
      (n + 1, left)
    else (0, indent, outer :: rest)
  | indent, [] => (0, indent, [])

def unwind (column : Int) (l : Lexer text) : Lexer text :=
  if l.flow ≠ 0 then l
  else
    let (n, indent, outer) := unwindIndents column l.indent l.outer
    { l with indent, outer, tokens := l.tokens ++ Array.replicate n Token.blockEnd }

/-- Opens a block at a column if it is deeper than the current one; the token goes to `place`. There
are no blocks inside flow collections. -/
def openBlock (l : Lexer text) (column : Nat) (place : Nat) (t : Token) : Lexer text :=
  if l.flow = 0 ∧ l.indent < column then
    { l with indent := column, outer := l.indent :: l.outer,
             tokens := (l.tokens.toList.insertIdx place t).toArray }
  else l

def openHere (l : Lexer text) (t : Token) : Lexer text := l.openBlock l.cursor.column l.tokens.size t

def skipToToken : Nat → Lexer text → Lexer text
  | 0, l => l
  | fuel + 1, l =>
    let c := l.cursor.skipBlanks.skipComment
    match c.lineBreak? with
    | some (_, c) =>
      skipToToken fuel { l with cursor := c, keyAllowed := l.keyAllowed || l.flow == 0 }
    | none => { l with cursor := c }

def mark (l : Lexer text) (n : Nat) (t : Token) : Lexer text :=
  { l.push t with cursor := l.cursor.skip n }

def documentMark (l : Lexer text) (t : Token) : Except Halt (Lexer text) := do
  let l ← (l.unwind (-1)).dropKey
  .ok { l.mark 3 t with keyAllowed := false }

def directiveLine (l : Lexer text) : Except Halt (Lexer text) := do
  let l ← (l.unwind (-1)).dropKey
  let (d, c) ← directive l.cursor.next
  .ok { l.push (.directive d) with cursor := c, keyAllowed := false }

def flowStart (l : Lexer text) (t : Token) : Except Halt (Lexer text) := do
  let l ← l.saveKey
  .ok { l.mark 1 t with flow := l.flow + 1, keyAllowed := true }

def flowEnd (l : Lexer text) (t : Token) : Except Halt (Lexer text) := do
  let l ← l.dropKey
  if l.flow = 0 then l.cursor.next.halt
  else .ok { l.mark 1 t with flow := l.flow - 1, keyAllowed := false }

def flowEntry (l : Lexer text) : Except Halt (Lexer text) := do
  let l ← { l with keyAllowed := true }.dropKey
  .ok (l.mark 1 .flowEntry)

def blockEntry (l : Lexer text) : Except Halt (Lexer text) := do
  if l.flow == 0 && !l.keyAllowed then l.cursor.next.halt
  else
    let l ← { l.openHere .blockSequenceStart with keyAllowed := true }.dropKey
    .ok (l.mark 1 .blockEntry)

def explicitKey (l : Lexer text) : Except Halt (Lexer text) := do
  if l.flow == 0 && !l.keyAllowed then l.cursor.next.halt
  else
    let l ← { l.openHere .blockMappingStart with keyAllowed := l.flow == 0 }.dropKey
    .ok (l.mark 1 .key)

/-- A colon: it ends the key that started here, or stands behind an announced one. -/
def keyEnd (l : Lexer text) : Except Halt (Lexer text) :=
  match l.keys.lookup l.flow with
  | some k =>
    let l := { l with keys := l.keys.filter (·.1 != l.flow),
                      tokens := (l.tokens.toList.insertIdx k.token .key).toArray }
    let l := l.openBlock k.column k.token .blockMappingStart
    .ok { l.mark 1 .value with keyAllowed := false }
  | none =>
    if l.flow == 0 && !l.keyAllowed then l.cursor.next.halt
    else do
      let l ← { l.openHere .blockMappingStart with keyAllowed := l.flow == 0 }.dropKey
      .ok (l.mark 1 .value)

def word (l : Lexer text) (scan : Cursor text → Except Halt (Token × Cursor text)) :
    Except Halt (Lexer text) := do
  let l ← l.saveKey
  let (t, c) ← scan l.cursor
  .ok { l.push t with cursor := c, keyAllowed := false }

def named (l : Lexer text) (token : String → Token) : Except Halt (Lexer text) :=
  l.word fun c => (name c.next).map fun (n, c) => (token n, c)

def plainWord (l : Lexer text) : Except Halt (Lexer text) := do
  let l ← l.saveKey
  let (s, c, ended) := plain (l.flow != 0) (l.indent + 1) l.cursor
  .ok { l.push (.scalar s true) with cursor := c, keyAllowed := ended }

def blockText (l : Lexer text) (folded : Bool) : Except Halt (Lexer text) := do
  let l ← { l with keyAllowed := true }.dropKey
  let (s, c) ← block folded l.indent l.cursor
  .ok { l.push (.scalar s false) with cursor := c }

def indicators : List Char := "-?:,[]\x7b\x7d#&*!|>'\"%@\x60".toList

/-- Whether a plain text starts here: dashes, question marks and colons can start one when no
separator follows. -/
def startsPlain (l : Lexer text) (ch : Char) (after : Option Char) : Bool :=
  !(Cursor.separates (some ch) || indicators.contains ch) ||
    (!Cursor.separates after && (ch == '-' || (l.flow == 0 && (ch == '?' || ch == ':'))))

def tokenAt (l : Lexer text) (ch : Char) (after : Option Char) : Except Halt (Lexer text) :=
  let apart := l.flow ≠ 0 ∨ Cursor.separates after
  if ch = '%' ∧ l.cursor.column = 0 then l.directiveLine
  else if l.cursor.column = 0 ∧ l.cursor.atMark '-' then l.documentMark .documentStart
  else if l.cursor.column = 0 ∧ l.cursor.atMark '.' then l.documentMark .documentEnd
  else if ch = '[' then l.flowStart .flowSequenceStart
  else if ch = '\x7b' then l.flowStart .flowMappingStart
  else if ch = ']' then l.flowEnd .flowSequenceEnd
  else if ch = '\x7d' then l.flowEnd .flowMappingEnd
  else if ch = ',' then l.flowEntry
  else if ch = '-' ∧ Cursor.separates after then l.blockEntry
  else if ch = '?' ∧ apart then l.explicitKey
  else if ch = ':' ∧ apart then l.keyEnd
  else if ch = '*' then l.named .alias
  else if ch = '&' then l.named .anchor
  else if ch = '!' then l.word tag
  else if ch = '|' ∧ l.flow = 0 then l.blockText false
  else if ch = '>' ∧ l.flow = 0 then l.blockText true
  else if ch = '\'' then l.word fun c => (quoted false c).map fun (t, c) => (.scalar t false, c)
  else if ch = '"' then l.word fun c => (quoted true c).map fun (t, c) => (.scalar t false, c)
  else if l.startsPlain ch after then l.plainWord
  else l.cursor.next.halt

/-- How many of the tokens can be given out: those before the first that may turn out to be a
key. -/
def ready (l : Lexer text) : Nat := l.keys.foldl (fun n k => min n k.2.token) l.tokens.size

def given (l : Lexer text) : List Token := l.tokens.toList.take l.ready

/-- One token further, or several where blocks end; `none` behind the last token. At the end of
what was handed on `stop` is met. -/
def step (stop : Option Fault) (l : Lexer text) : Except Fault (Lexer text × Bool) :=
  let met (h : Halt) : Fault := if h.atEnd then stop.getD h.fault else h.fault
  let l := skipToToken (l.cursor.rest.length + 1) l
  match l.cursor.rest, stop with
  | [], some f => .error f
  | [], none => do
    let l ← (l.dropStale).mapError met
    let l ← ((l.unwind l.cursor.column).unwind (-1)).dropKey.mapError met
    .ok (l, true)
  | ch :: rest, _ => do
    let l ← l.dropStale.mapError met
    let l ← ((l.unwind l.cursor.column).tokenAt ch rest.head?).mapError met
    match l.cursor.rest, stop with
    | [], some f => .error f
    | _, _ => do
      let l ← l.dropStale.mapError met
      .ok (l, false)

/-- All tokens from here on. Every token takes at least one character. -/
def run (stop : Option Fault) : Nat → Lexer text → Stream
  | 0, l => ⟨l.given, some .malformed⟩
  | fuel + 1, l =>
    match l.step stop with
    | .error f => ⟨l.given, some f⟩
    | .ok (l, true) => ⟨l.tokens.toList, none⟩
    | .ok (l, false) => run stop fuel l

end Lexer

def Feed.tokens (f : Feed) : Stream := (Lexer.start f.text).run f.stop (f.text.length + 1)

end Columnar.Yaml
