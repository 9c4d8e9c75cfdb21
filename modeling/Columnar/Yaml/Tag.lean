import Columnar.Text.Figures
import Columnar.Yaml.Cursor

namespace Columnar.Yaml

inductive Directive
  | version (major : Nat)
  | handle (name : String) (meaning : String)
  | unknown
  deriving DecidableEq, Repr

/-- Indentation has become start and end tokens. -/
inductive Token
  | directive (d : Directive)
  | documentStart
  | documentEnd
  | blockSequenceStart
  | blockMappingStart
  | blockEnd
  | flowSequenceStart
  | flowSequenceEnd
  | flowMappingStart
  | flowMappingEnd
  | blockEntry
  | flowEntry
  | key
  | value
  | alias (name : String)
  | anchor (name : String)
  | tag (handle : Option String) (rest : String)
  | scalar (text : Text) (plain : Bool)
  deriving DecidableEq, Repr

section
variable {text : List Char}

def isNameChar (c : Char) : Bool := c.isAlphanum || c == '-' || c == '_'

def name (c : Cursor text) : Except Halt (String × Cursor text) :=
  let cs := c.rest.takeWhile isNameChar
  let c := c.skipWhile isNameChar
  if cs.isEmpty then c.halt
  else if Cursor.separates c.peek? || "?:,]\x7d%@\x60".toList.contains (c.peek?.getD ' ') then
    .ok (String.ofList cs, c)
  else wrong

def endsWord (c : Cursor text) : Bool := Cursor.separates c.peek? && c.peek? ≠ some '\t'

def isTagChar (c : Char) : Bool := c.isAlphanum || "-;/?:@&=+$,_.!~*'()[]".toList.contains c

/-- A run of bytes, each by a percent sign and two digits, and how many characters it takes. -/
def numberedBytes : List Char → Except Halt (List UInt8 × Nat)
  | '%' :: a :: b :: cs =>
    match Text.hexNat? [a, b] with
    | none => wrong
    | some n => (numberedBytes cs).map fun (bytes, length) => (UInt8.ofNat n :: bytes, length + 3)
  | '%' :: cs => .error ⟨.malformed, cs.all fun c => (Text.hexValue? c).isSome⟩
  | _ => .ok ([], 0)

/-- The text of a tag from a place on. Bytes by number must be UTF-8, run by run. -/
def tagChars : Nat → Cursor text → Except Halt (List Char × Cursor text)
  | 0, c => .ok ([], c)
  | fuel + 1, c => do
    let run := c.rest.takeWhile isTagChar
    let c := c.skip run.length
    let (bytes, length) ← numberedBytes c.rest
    if length = 0 then .ok (run, c)
    else
      let c := c.skip length
      match Text.Utf8.decode bytes with
      | .error _ => c.halt
      | .ok decoded =>
        let (more, c) ← tagChars fuel c
        .ok (run ++ decoded ++ more, c)

def tagText (c : Cursor text) : Except Halt (String × Cursor text) := do
  let (cs, behind) ← tagChars (c.rest.length + 1) c
  if cs.isEmpty then c.halt else .ok (String.ofList cs, behind)

def handle (c : Cursor text) : Except Halt (String × Cursor text) :=
  if c.peek? ≠ some '!' then c.halt
  else
    let name := c.next.rest.takeWhile isNameChar
    let after := c.skip (name.length + 1)
    if c.next.peek? = some ' ' then .ok ("!", c.next)
    else if after.peek? = some '!' then .ok (String.ofList ('!' :: (name ++ ['!'])), after.next)
    else after.halt

def endTag (t : Token) (c : Cursor text) : Except Halt (Token × Cursor text) :=
  if endsWord c then .ok (t, c) else wrong

/-- A tag: verbatim in angle brackets, a lone exclamation mark, or a handle and the rest. -/
def tag (c : Cursor text) : Except Halt (Token × Cursor text) :=
  match c.next.peek? with
  | some '<' => do
    let (rest, c) ← tagText (c.skip 2)
    if c.peek? = some '>' then endTag (.tag none rest) c.next else c.halt
  | o =>
    if Cursor.separates o then endTag (.tag none "!") c.next
    else
      let word := c.next.rest.takeWhile fun ch => !(ch == ' ' || isBreak ch)
      if word.contains '!' then do
        let (handle, c) ← handle c
        let (rest, c) ← tagText c
        endTag (.tag (some handle) rest) c
      else
        -- The second exclamation mark has been looked for up to the end of the word.
        let atEnd := (c.next.skip word.length).rest.isEmpty
        ((tagText c.next).bind fun (rest, c) => endTag (.tag (some "!") rest) c).mapError fun h =>
          { h with atEnd := h.atEnd || atEnd }

/-- The number of a version and what follows it. It is taken for what it is where it ends. -/
def versionPart (c : Cursor text) : Except Halt (Nat × Cursor text) :=
  let ds := c.rest.takeWhile Char.isDigit
  let behind := c.skip ds.length
  if ds.isEmpty then c.halt
  else match Text.Figures.integer 10 (ds.map .char) with
    | .ok n => .ok (n.toNat, behind)
    | .error u => .error ⟨.unreadable u, behind.rest.isEmpty⟩

def version (c : Cursor text) : Except Halt (Directive × Cursor text) := do
  let (major, c) ← versionPart c.skipBlanks
  if c.peek? ≠ some '.' then c.halt
  else
    let (_, c) ← versionPart c.next
    if endsWord c then .ok (.version major, c) else wrong

def handleMeaning (c : Cursor text) : Except Halt (Directive × Cursor text) := do
  let (name, c) ← handle c.skipBlanks
  if c.peek? ≠ some ' ' then c.halt
  else
    let (meaning, c) ← tagText c.skipBlanks
    if endsWord c then .ok (.handle name meaning, c) else wrong

/-- A directive behind its percent sign, up to the end of its line. One that is not known may hold
anything. -/
def directive (c : Cursor text) : Except Halt (Directive × Cursor text) := do
  let name := c.rest.takeWhile isNameChar
  let c := c.skip name.length
  if name.isEmpty then c.halt
  else if !endsWord c then wrong
  else
    let (d, c) ←
      if name = "YAML".toList then version c
      else if name = "TAG".toList then handleMeaning c
      else .ok (.unknown, c.skipWhile (!isBreak ·))
    let c := c.skipBlanks.skipComment
    if !c.atLineEnd then wrong
    else .ok (d, (c.lineBreak?.map Prod.snd).getD c)

end

end Columnar.Yaml
